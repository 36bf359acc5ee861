import Metering.Files
import Metering.Settings

/-!
# Settings in a file

The file of the settings has a name of its own choice, or else a fixed one.

* `Settings.load`: the settings of a directory, or what is wrong with them.
-/

namespace Metering.Settings

/-- Why there are no settings. -/
inductive LoadFault where
  /-- The file cannot be read. -/
  | unreadable (e : AccessError)
  /-- There is something wrong with its text. -/
  | faulty (f : Fault)

/-- The name of the file if no other is given. -/
def defaultFile : String := "config.toml"

/-- The settings that a file holds. -/
def ofFile (content : Except AccessError ByteArray) : Except LoadFault Settings :=
  match content.bind textOfBytes with
  | .error e => .error (.unreadable e)
  | .ok text => (read text).mapError .faulty

/-- The settings of a directory. -/
def load (fs : Files ByteArray) (name? : Option String) : Except LoadFault Settings :=
  ofFile (fs.content (name?.getD defaultFile))

end Metering.Settings
