/-
# `TurtleLogo.Settings` — what the environment lays down
-/
import TurtleLogo.File.Path
import TurtleLogo.Robot.Config

namespace TurtleLogo

/-- The environment variables of a process. -/
abbrev Surroundings := Bindings String

namespace Surroundings

/-- A variable of the environment, or a default. -/
def getD (env : Surroundings) (name fallback : String) : String :=
  (Bindings.get? name env).getD fallback

/-- Whether a variable, or else a default, says yes. -/
def flag (env : Surroundings) (name fallback : String) : Bool :=
  Text.lower (env.getD name fallback) == "true"

end Surroundings

/-- What the environment lays down. -/
structure Settings where
  logLevel : String
  logFile : String
  useRobot : Bool
  blasterPath : String
  gpioRoot : String

namespace Settings

/-- The settings in an environment. -/
def ofSurroundings (env : Surroundings) : Settings where
  logLevel := env.getD "JLOGO_LOG_LEVEL" "INFO"
  logFile := env.getD "JLOGO_LOG_FILE" ""
  useRobot := env.flag "JLOGO_USE_PI" "false"
  blasterPath := env.getD "JLOGO_PI_BLASTER" "/dev/pi-blaster"
  gpioRoot := env.getD "JLOGO_GPIO_ROOT" "/sys/class/gpio"

/-- The robot that the settings describe. -/
def robot (s : Settings) : Robot.Config where
  blasterPath := s.blasterPath
  gpioRoot := s.gpioRoot

def homeName : String := "jlogo"

def usualGrammar : String := "language/grammar.lark"

/-- A grammar file as seen from the program's own directory; an empty name asks for the
program's own. -/
def grammarPath (file : Option String) : String :=
  File.normalWithin homeName ((file.filter fun name => !name.isEmpty).getD usualGrammar)

end Settings

end TurtleLogo
