import ChibiCopter.Comms.Link
import ChibiCopter.Firmware.VirtualTimers
import ChibiCopter.Flight.Timestamps
import ChibiCopter.Gps.Parser

/-!
# The whole program

`main` initialises the modules one after the other and enters its loop.  The threads of
the receiver, the GPS, the ground link and the lamps run beside it from their creation
on, and the system timer interrupts all of them.  A step of the program is one of these:
a tick, a byte handled by a thread, a wake-up of the lamp thread, or a pass of the loop.
No initialisation touches the data of a thread that exists already.
-/

namespace ChibiCopter.Firmware

open Clock Comms Flight

/-- The constants of the MAVLink library that `Comms.c` and `main.c` name, and the zero
that a static variable holds before. -/
inductive MavConstant where
  | unset
  | compIdImu
  | typeQuadrotor
  | modePreflight
  | modeStabilizeDisarmed
  | stateBoot
  | stateCalibrating
  | stateStandby
  | autopilotInvalid
  deriving DecidableEq, Repr

/-- `mavlink_system`. -/
structure MavlinkSystem where
  sysid : UInt8
  compid : MavConstant
  type : MavConstant
  mode : MavConstant
  state : MavConstant
  navMode : MavConstant
  deriving DecidableEq, Repr

/-- The lamps on the pins of port D. -/
structure Leds where
  led3 : Bool
  led4 : Bool
  led5 : Bool
  led6 : Bool
  deriving DecidableEq, Repr

/-- Where the lamp thread sleeps, by what it has done last. -/
inductive BlinkStage where
  | led3Cleared
  | led6Set
  | led6Cleared
  | led3Set
  deriving DecidableEq, Repr

/-- The globals of all modules and the variables of the main loop, over the virtual timers
of the operating system.  `now` counts ticks without end. -/
structure Program (timers : VirtualTimers) where
  now : Nat
  loop : MainLoop
  rx : Spektrum.Receiver
  motors : Motors
  gps : Gps.Globals
  link : Link
  mavlinkSystem : MavlinkSystem
  vt1 : timers.VirtualTimer
  leds : Leds
  blinkStage : BlinkStage

/-- The messages that the program hands to the MAVLink library, with the arguments of
the `mavlink_msg_*_send` functions behind the channel.  `none` is a status whose drop
rate is a division by zero.  The angles of the attitude are left out. -/
inductive Message where
  | heartbeat (type autopilot baseMode : MavConstant) (customMode : UInt32)
      (systemStatus : MavConstant)
  | sysStatus (status : Option SysStatus)
  | attitude (timeBootMs : UInt32)
  | gpsRawInt (timeUsec : UInt64) (fixType : UInt8) (lat lon alt : Int32)
      (eph epv vel cog : UInt16) (satellitesVisible : UInt8)
  deriving DecidableEq, Repr

/-- What a step gives to the outside: a character that the GPS thread writes to the
serial driver 2, or a message. -/
inductive Output where
  | character (c : UInt8)
  | message (message : Message)
  deriving DecidableEq, Repr

variable {timers : VirtualTimers}

/-- `chTimeNow`. -/
def chTimeNow (program : Program timers) : UInt32 := reading program.now

/-! ## The ground link -/

/-- `MS2ST(500)`. -/
def heartbeatTime : Nat := 500

def ledoff (program : Program timers) : Program timers := { program with leds.led4 := false }

def commsSendHeartbeat (program : Program timers) : List Message × Program timers :=
  let system := program.mavlinkSystem
  let vt1 :=
    if timers.chVTIsArmedI program.vt1 then timers.chVTResetI program.vt1 else program.vt1
  ([.heartbeat system.type system.navMode system.mode 0 system.state],
    { program with leds.led4 := true, vt1 := timers.chVTSetI vt1 heartbeatTime })

def commsInit (program : Program timers) : List Message × Program timers :=
  commsSendHeartbeat
    { program with
      mavlinkSystem :=
        ⟨1, .compIdImu, .typeQuadrotor, .modePreflight, .stateBoot, .autopilotInvalid⟩ }

/-- The MAVLink channels. -/
inductive MavlinkChannel where
  | comm0
  | other
  deriving DecidableEq, Repr

/-- `comms_send_bytes`, with the characters that it writes to the serial driver 2.  The
call of the driver is commented out. -/
def commsSendBytes (chan : MavlinkChannel) (_buf : List UInt8) : List UInt8 :=
  if chan = .comm0 then [] else []

/-! ## Calls of the main loop -/

/-- A call of the main loop.  Reading the sensors changes none of these globals. -/
def perform (call : MainCall) (program : Program timers) : List Message × Program timers :=
  match call with
  | .gyroRead => ([], program)
  | .accelRead => ([], program)
  | .motorsSetSpeed motor speed =>
      ([], { program with motors := motorsSetSpeed motor speed program.motors })
  | .commsSendAttitude timeBootMs => ([.attitude timeBootMs], program)
  | .commsSendGPSRaw timeUsec fixType lat lon alt eph epv vel cog satellitesVisible =>
      ([.gpsRawInt timeUsec fixType lat lon alt eph epv vel cog satellitesVisible], program)
  | .commsSendSysStatus => ([.sysStatus (commsSendSysStatus program.link)], program)
  | .commsSendHeartbeat => commsSendHeartbeat program

def mainCalls : Transducer (Program timers) MainCall (List Message) := ⟨perform⟩

/-- A pass of the loop in `main`. -/
def pass (program : Program timers) : List Message × Program timers :=
  let (calls, loop) := mainPass (chTimeNow program) program.rx program.loop
  ((mainCalls.outputs program calls).flatten,
    { mainCalls.final program calls with loop := loop })

/-! ## The threads and the system timer -/

/-- The system timer, with the virtual timer that `Comms.c` uses. -/
def tick (program : Program timers) : Program timers :=
  let (called, vt1) := timers.tick program.vt1
  let program := { program with now := program.now + 1, vt1 := vt1 }
  if called then ledoff program else program

/-- The body of the loop of the thread `Spektrum`. -/
def spektrum (c : UInt8) (program : Program timers) : Program timers :=
  { program with rx := (Spektrum.spektrumParse c program.rx).2 }

/-- The body of the loop of the thread `GPS`. -/
def gps (c : UInt8) (program : Program timers) : Program timers :=
  let (result, gps) := Gps.gpsParseChar c program.gps
  let program := { program with gps := gps }
  if result.valid ≠ 0 then { program with leds.led5 := true } else program

/-- The thread `Blink` from one sleep to the next. -/
def blink (program : Program timers) : Program timers :=
  match program.blinkStage with
  | .led3Cleared => { program with leds.led6 := true, blinkStage := .led6Set }
  | .led6Set => { program with leds.led6 := false, blinkStage := .led6Cleared }
  | .led6Cleared => { program with leds.led3 := true, blinkStage := .led3Set }
  | .led3Set => { program with leds.led3 := false, blinkStage := .led3Cleared }

/-- A step that is not made by `main`. -/
inductive ThreadEvent where
  | tick
  | spektrum (c : UInt8)
  | gps (c : UInt8)
  | comms (parsed : ParseResult)
  | blink

inductive Event where
  | thread (event : ThreadEvent)
  | pass

def threadStep (event : ThreadEvent) (program : Program timers) : List Output × Program timers :=
  match event with
  | .tick => ([], tick program)
  | .spektrum c => ([], spektrum c program)
  | .gps c => ([.character c], gps c program)
  | .comms parsed => ([], { program with link := comms parsed program.link })
  | .blink => ([], blink program)

def threads : Transducer (Program timers) ThreadEvent (List Output) := ⟨threadStep⟩

def step (event : Event) (program : Program timers) : List Output × Program timers :=
  match event with
  | .thread event => threadStep event program
  | .pass =>
      let (messages, program) := pass program
      (messages.map .message, program)

def firmware : Transducer (Program timers) Event (List Output) := ⟨step⟩

/-! ## Start-up -/

/-- The program as it is loaded, with all statics zero. -/
def loaded (timers : VirtualTimers) (now : Nat) : Program timers where
  now := now
  loop := ⟨reading now, 0, 0⟩
  rx := Spektrum.zeroGlobals
  motors := ⟨Vector.replicate 4 0, Vector.replicate 4 0⟩
  gps := Gps.zeroGlobals
  link := zeroLink
  mavlinkSystem := ⟨0, .unset, .unset, .unset, .unset, .unset⟩
  vt1 := timers.unset
  leds := ⟨false, false, false, false⟩
  blinkStage := .led3Cleared

/-- `main` from the reading of `startTime` up to the creation of the last thread, with
the message that it sends on the way. -/
def initialise (timers : VirtualTimers) (start : Nat) : List Message × Program timers :=
  let (messages, program) := commsInit (loaded timers start)
  let program := { program with mavlinkSystem.state := .stateCalibrating }
  let program := { program with rx := Spektrum.spektrumInit program.rx }
  let program := { program with motors := motorsInit program.motors }
  (messages, { program with gps := Gps.gpsParserInit program.gps })

/-- `main` from there on to the head of its loop. -/
def enterLoop (program : Program timers) : Program timers :=
  { program with
    mavlinkSystem :=
      { program.mavlinkSystem with state := .stateStandby, mode := .modeStabilizeDisarmed }
    loop.previousTime := chTimeNow program }

/-- The program at the head of the loop, when the threads have made some steps since
they were created. -/
def entered (timers : VirtualTimers) (start : Nat) (early : List ThreadEvent) : Program timers :=
  enterLoop (threads.final (initialise timers start).2 early)

/-- The program behind some steps of the loop and the threads. -/
def behind (timers : VirtualTimers) (start : Nat) (early : List ThreadEvent)
    (events : List Event) : Program timers :=
  firmware.final (entered timers start early) events

end ChibiCopter.Firmware
