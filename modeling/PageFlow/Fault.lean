import PageFlow.Flow.File
import PageFlow.History
import PageFlow.Markup.Tag
import PageFlow.Session
import PageFlow.Settings.Reader
import PageFlow.Value.Json

/-!
# Faults

Everything that can end a step, a run or a command before its time.
-/

namespace PageFlow

/-- Why a nap cannot be taken. -/
inductive NapFault where
  | integerSize
  | endless
  | undefined
  deriving DecidableEq, Repr

def NapFault.message : NapFault → String
  | .integerSize => "int too large to convert to float"
  | .endless => "cannot convert float infinity to integer"
  | .undefined => "cannot convert float NaN to integer"

/-- A fault of the program. -/
inductive Fault where
  | session (fault : SessionFault)
  | unmet (text : String)
  | reason (fault : Value.JsonFault)
  | nap (fault : NapFault)
  | file (fault : FileFault)
  | load (fault : LoadFault)
  | flow (fault : FlowFault)
  | source (kind : String)
  | settings (fault : SettingsFault)
  | history (fault : History.Fault)
  | markup (stray : Markup.StrayTag)

namespace Fault

def message : Fault → String
  | .session fault => fault.text
  | .unmet text => text
  | .reason fault => fault.message
  | .nap fault => fault.message
  | .file fault => fault.message
  | .load fault => fault.message
  | .flow fault => fault.message
  | .source kind => "expected str, bytes or os.PathLike object, not " ++ kind
  | .settings fault => fault.message
  | .history fault => fault.message
  | .markup stray => stray.message

/-- A request to stop the program. Only sessions raise such faults. -/
def exits : Fault → Bool
  | .session fault => fault.exits
  | _ => false

end Fault

end PageFlow
