import PageFlow.World

/-!
# The page of a world

Calls on the session of a world. Every call is noted before its answer counts,
and its time passes whether it is answered or fails. A session that was launched
is released on every way out.
-/

namespace PageFlow.Act

variable {σ α : Type}

/-- Notes an event and takes over the reply to it. -/
def reply (event : SessionEvent) (ask : Int → σ → Reply σ α) : Act σ α :=
  fun world =>
  let reply := ask world.clock world.session
  let after := { world with
    session := reply.state
    events := world.events ++ [event]
    clock := world.clock + reply.elapsed }
  match reply.answer with
  | .ok answer => (.ok answer, after)
  | .error fault => (.error (.session fault), after)

def writeFile (path : Path) (data : List UInt8) : Act σ Unit := fun world =>
  match world.files.write path data with
  | .ok files => (.ok (), { world with files := files })
  | .error fault => (.error (.file fault), world)

/-- Asks the page for something. The image that answers a screenshot is put into
its file. -/
def perform (driver : Driver σ) (call : Call) : Act σ String := do
  let answer ← reply (.called call) fun time state =>
      driver.perform time call state
  match call with
  | .screenshot path => writeFile path (Text.encodeUtf8 answer)
  | _ => pure ()
  return answer

/-- Launches a session for an act and releases it afterwards. -/
def withSession (driver : Driver σ) (headless : Bool) (act : Act σ α) :
    Act σ α := do
  reply (.opened headless) fun time state => driver.launch time headless state
  ensuring act (reply .closed fun time state => driver.release time state)

end PageFlow.Act
