import CallAudio.Scenario
import CallAudio.Switch.Session

/-! # Playing a scenario

The steps happen one after the other to a new switch on the handset of the scenario. After each
step the waiting callbacks are applied. Shown are the steps, what the application is told, and the
commands to the platform, each after the step that caused it.

The clock starts at zero and stands still except while a step waits.
-/

namespace CallAudio

inductive Output
  | step (step : Step)
  | devices (available : List Device) (selected : Option Device)
  | headset (event : HeadsetEvent)
  | command (command : Command)
  | rejected (reason : String)
  deriving DecidableEq

namespace Output

def text : Output → String
  | .step done => "> " ++ done.text
  | devices available selected =>
    "  devices [" ++ ", ".intercalate (available.map Device.name) ++ "], selected " ++
      (selected.map Device.name).getD "none"
  | headset event => "  bluetooth: " ++ event.text
  | .command issued => "  platform " ++ issued.text
  | rejected reason => "  rejected: " ++ reason

/-- What is shown of a notice. Changes of focus are not shown. -/
def ofNotice? : Notice → Option Output
  | .devices _ available selected => some (devices available selected)
  | .headset _ event => some (headset event)
  | .focus .. => none

end Output

structure Play where
  switch : Switch Handset
  now : Nat
  outputs : List Output

namespace Play

def deviceListener : Nat := 0

def headsetListener : Nat := 1

def begin (scenario : Scenario) (config : SwitchConfig) : Play where
  switch := (Switch.create config scenario.handset).setHeadsetListener (some headsetListener)
  now := 0
  outputs := []

def deadline? (switch : Switch Handset) : Option Nat :=
  switch.tracker.listening?.bind Tracker.deadline?

/-- The next thing that happens up to `finish` while a step waits: a callback is applied, or else
the clock moves on to the deadline of a pending request, which times out. A deadline at the very end
of the wait still counts. -/
def happening? (finish : Nat) (state : Switch Handset × Nat) : Option (Switch Handset × Nat) :=
  let (switch, now) := state
  match switch.next? now, deadline? switch with
  | some switch, _ => some (switch, now)
  | none, some deadline =>
    let now := max now deadline
    if deadline ≤ finish then some (switch.poll now, now) else none
  | none, none => none

def await (count finish : Nat) (state : Switch Handset × Nat) : Switch Handset × Nat :=
  match count with
  | 0 => state
  | count + 1 =>
    match happening? finish state with
    | some state => await count finish state
    | none => state

/-- Lets time pass up to `finish`. Each callback can call forth one more, and so can each request,
of which there is at most one for each headset; so the count is enough for all that happens. -/
def passTime (switch : Switch Handset) (now finish : Nat) : Switch Handset :=
  (await (2 * (switch.host.queue.length + switch.tracker.headsets.length)) finish (switch, now)).1

def choice? (switch : Switch Handset) (kind : Kind) (address : Option String) : Option Device :=
  switch.selector.available.find? fun device =>
    device.kind = kind && (address.isNone || device.address? = address)

/-- The switch after what a step does at once, and why that was rejected if it was. -/
def act (switch : Switch Handset) (now : Nat) : Step → Option String × Switch Handset
  | .start => (none, switch.start (some deviceListener) now)
  | .stop => (none, switch.stop)
  | .activate =>
    match switch.activate now with
    | (.ok (), switch) => (none, switch)
    | (.error error, switch) => (some error.message, switch)
  | .deactivate => (none, switch.deactivate now)
  | .select kind address =>
    match choice? switch kind address with
    | some device => (none, switch.select device now)
    | none => (some ("no available " ++ kind.name), switch)
  | .clearSelection => (none, switch.clearSelection now)
  | .connect headset => (none, switch.react (.connect headset))
  | .disconnect address => (none, switch.react (.disconnect address))
  | .confirmLink address => (none, switch.react (.reportBluetooth (.audioConnected address)))
  | .failLink address => (none, switch.react (.reportBluetooth (.audioFailed address)))
  | .plug name => (none, switch.react (.plug name))
  | .unplug => (none, switch.react .unplug)
  | .grantPermission => (none, switch.react (.setPermission true))
  | .revokePermission => (none, switch.react (.setPermission false))
  | .hostResumed => (none, switch.hostResumed now)
  | .wait time => (none, passTime switch now (now + time))

def duration : Step → Nat
  | .wait time => time
  | _ => 0

def told (before after : Switch Handset) : List Output :=
  (after.host.notices.drop before.host.notices.length).filterMap Output.ofNotice?

def issued (before after : Switch Handset) : List Output :=
  (after.host.commands.drop before.host.commands.length).map .command

def step (play : Play) (step : Step) : Play :=
  let (rejection, acted) := act play.switch play.now step
  let now := play.now + duration step
  let settled := acted.pumped now
  { switch := settled
    now
    outputs := play.outputs ++ [.step step] ++ told play.switch acted ++
      rejection.toList.map .rejected ++ told acted settled ++ issued play.switch settled }

def finish (play : Play) : Play :=
  let stopped := play.switch.stop
  { play with
    switch := stopped
    outputs := play.outputs ++ told play.switch stopped ++ issued play.switch stopped }

end Play

def Scenario.play (scenario : Scenario) (config : SwitchConfig) : Play :=
  (scenario.steps.foldl Play.step (Play.begin scenario config)).finish

end CallAudio
