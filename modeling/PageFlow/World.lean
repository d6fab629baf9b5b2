import PageFlow.Calendar
import PageFlow.Fault
import PageFlow.Log
import PageFlow.Pacing

/-!
# The world of a run

Everything that running a flow can look at or change: the session, the clock,
the random numbers, the files, the environment, the log and the console. An act
is a computation on a world that gives a value or a fault; a fault keeps what
was done before it.
-/

namespace PageFlow

open PageFlow.Decimal

/-- A world with sessions in the states `σ`. The clock counts nanoseconds from
the start of the program, which was `epoch` milliseconds after the first of
January 1970. `random` gives the integers that choose delays, and `drawn` counts
those in use. `naps` are the seconds slept; a nap takes as many nanoseconds more
or less than asked as `drift` says for the number of naps before it. `received`
are the records handed to a recorder. -/
structure World (σ : Type) where
  session : σ
  events : List SessionEvent
  clock : Int
  epoch : Int
  random : Nat → Int
  drawn : Nat
  naps : List Binary64
  drift : Nat → Int := fun _ => 0
  files : FileSystem
  environment : Environment
  settings : Option Settings
  log : Log
  output : String
  errors : String
  received : List RunRecord

namespace World

/-- The time of the calendar in microseconds. -/
def moment (world : World σ) : Int :=
  world.epoch * 1000 + Int.fdiv world.clock 1000

def milliseconds (world : World σ) : Int :=
  Int.fdiv world.clock 1000000

end World

/-- A computation on a world. -/
abbrev Act (σ α : Type) := ExceptT Fault (StateM (World σ)) α

namespace Act

variable {σ α : Type}

/-- What a function of the world says. -/
def ask (f : World σ → α) : Act σ α :=
  fun world => (.ok (f world), world)

def change (f : World σ → World σ) : Act σ Unit :=
  fun world => (.ok (), f world)

def fail (fault : Fault) : Act σ α :=
  fun world => (.error fault, world)

/-- Gives the value of a result, or raises its fault. -/
def orFail (fault : ε → Fault) (result : Except ε α) : Act σ α :=
  match result with
  | .ok value => fun world => (.ok value, world)
  | .error e => fail (fault e)

/-- Hands the result of an act on as a value. Requests to stop are not held
up. -/
def settle (act : Act σ α) : Act σ (Except Fault α) := fun world =>
  match act world with
  | (.ok value, after) => (.ok (.ok value), after)
  | (.error fault, after) =>
    if fault.exits then (.error fault, after) else (.ok (.error fault), after)

/-- Does a second act whatever came of the first one. A fault of the second act
is raised instead of one of the first. -/
def ensuring (first : Act σ α) (second : Act σ Unit) : Act σ α := fun world =>
  match first world with
  | (result, between) =>
    match second between with
    | (.ok (), after) => (result, after)
    | (.error fault, after) => (.error fault, after)

/-! ## Time -/

def milliseconds : Act σ Int := ask World.milliseconds

/-- The milliseconds since an earlier time; none if the clock went back. -/
def since (start : Int) : Act σ Int :=
  ask fun world => max 0 (world.milliseconds - start)

def now : Act σ DateTime := ask fun world => Calendar.ofMoment world.moment

/-- Sleeps for some seconds. The clock moves by the nearest whole number of
nanoseconds and the drift of the nap, and never goes back. -/
def nap (seconds : Binary64) : Act σ Unit := fun world =>
  let slept := { world with naps := world.naps ++ [seconds] }
  match seconds.mulNat 1000000000 with
  | .nan => (.error (.nap .undefined), slept)
  | product =>
    match product.roundToInt? with
    | some nanoseconds =>
      let passed := max 0 (nanoseconds + world.drift world.naps.length)
      (.ok (), { slept with clock := slept.clock + passed })
    | none => (.error (.nap .endless), slept)

/-- Sleeps for some milliseconds, if there are any. -/
def sleep (ms : Binary64) : Act σ Unit :=
  if ms.isPositive || ms == .nan then nap (ms.divNat 1000) else change id

/-- Sleeps for a whole number of milliseconds, if there are any. -/
def sleepWhole (ms : Int) : Act σ Unit :=
  if ms ≤ 0 then change id
  else match Binary64.ofInt ms with
    | .infinite _ => fail (.nap .integerSize)
    | exact => nap (exact.divNat 1000)

def draw : Act σ Int := fun world =>
  (.ok (world.random world.drawn), { world with drawn := world.drawn + 1 })

/-! ## Settings and console -/

/-- The settings, which are read when they are first needed. -/
def settings : Act σ Settings := fun world =>
  match world.settings with
  | some settings => (.ok settings, world)
  | none =>
    match Settings.read [] world.environment world.files with
    | .ok settings => (.ok settings, { world with settings := some settings })
    | .error fault => (.error (.settings fault), world)

def print (text : String) : Act σ Unit :=
  change fun world => { world with output := world.output ++ text }

def printError (text : String) : Act σ Unit :=
  change fun world => { world with errors := world.errors ++ text }

/-- Makes sure that a directory stands at a path. -/
def ensureDirectory (path : Path) : Act σ Unit := fun world =>
  match world.files.ensureDirectory path with
  | (files, .ok ()) => (.ok (), { world with files := files })
  | (files, .error fault) =>
      (.error (.file fault), { world with files := files })

end Act

end PageFlow
