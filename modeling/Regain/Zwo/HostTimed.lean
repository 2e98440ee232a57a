import Mathlib.Data.List.Basic
import Regain.Lib.Routine

/-!
# Host-timed exposure

The long-exposure worker of `asi/direct/host_timed.rs`: the synchronization handshake, the three
gates set during integration and the restoration of the clocks. The camera is an `Io` over a state
of its own.
-/

namespace Regain.Zwo

open Lib
open Routine (act fail modify ret)

abbrev Byte := BitVec 8
abbrev Register := BitVec 16

/-- An `anyhow::Error`: its text, and whether `is::<CaptureCancelled>()` holds of it. -/
structure Error where
  text : String
  cancelled : Bool := false

/-- How code ends that does not return: with an error, or by a panic. -/
inductive Fault where
  | error (error : Error)
  | panicked

structure Protocol where
  model : String
  standbyRegister : Register
  initialSyncSettleMs : Nat
  integrationCompensationMs : Nat
  oneSecondCompensationMs : Nat

def asi6200 : Protocol where
  model := "ASI6200"
  standbyRegister := 0x19e
  initialSyncSettleMs := 15
  integrationCompensationMs := 200
  oneSecondCompensationMs := 200

def asi2600 : Protocol where
  model := "ASI2600"
  standbyRegister := 0x1ee
  initialSyncSettleMs := 0
  integrationCompensationMs := 400
  oneSecondCompensationMs := 205

/-- The two protocols of the source. -/
inductive Model where
  | asi6200
  | asi2600

def Model.protocol : Model → Protocol
  | .asi6200 => Zwo.asi6200
  | .asi2600 => Zwo.asi2600

/-- The trait `Io`.  An instant is in nanoseconds, a sleep in milliseconds. -/
structure Io (σ : Type) where
  read : Register → σ → Except Error Byte × σ
  write : Byte → Register → Byte → σ → Except Error Unit × σ
  service : σ → Except Error Unit × σ
  now : σ → Nat × σ
  sleep : Nat → σ → σ
  phase : String → σ → σ

inductive Operation where
  | read (register : Register) (result : Except Error Byte)
  | write (request : Byte) (register : Register) (value : Byte) (result : Except Error Unit)
  | service (result : Except Error Unit)
  | now (instant : Nat)
  | sleep (duration : Nat)
  | phase (phase : String)

/-- One operation and the camera right after it. -/
structure Moment (σ : Type) where
  operation : Operation
  camera : σ

/-- The camera with the record of everything that was done to it. -/
structure Bus (σ : Type) where
  camera : σ
  record : List (Moment σ) := []

def Bus.add {σ : Type} (bus : Bus σ) (operation : Operation) (camera : σ) : Bus σ where
  camera := camera
  record := bus.record ++ [⟨operation, camera⟩]

abbrev Worker (σ α : Type) := Routine (Bus σ) Fault α

def propagate {σ α : Type} : Except Error α → Worker σ α
  | .ok value => ret value
  | .error error => fail (.error error)

def refuse {σ α : Type} (text : String) : Worker σ α :=
  fail (.error ⟨text, false⟩)

section

variable {σ : Type} (io : Io σ)

def read (register : Register) : Worker σ Byte := do
  propagate (← act fun bus =>
    let answer := io.read register bus.camera
    (answer.1, bus.add (.read register answer.1) answer.2))

def write (request : Byte) (register : Register) (value : Byte) : Worker σ Unit := do
  propagate (← act fun bus =>
    let answer := io.write request register value bus.camera
    (answer.1, bus.add (.write request register value answer.1) answer.2))

def service : Worker σ Unit := do
  propagate (← act fun bus =>
    let answer := io.service bus.camera
    (answer.1, bus.add (.service answer.1) answer.2))

def now : Worker σ Nat :=
  act fun bus =>
    let answer := io.now bus.camera
    (answer.1, bus.add (.now answer.1) answer.2)

def sleep (duration : Nat) : Worker σ Unit :=
  modify fun bus => bus.add (.sleep duration) (io.sleep duration bus.camera)

def phase (name : String) : Worker σ Unit :=
  modify fun bus => bus.add (.phase name) (io.phase name bus.camera)

/-- `let flags = io.read(register)?; io.write(0xbd, register, f(flags))?`. -/
def edit (register : Register) (f : Byte → Byte) : Worker σ Unit := do
  let flags ← read io register
  write io 0xbd register (f flags)

def subtract (a b : Nat) : Worker σ Nat :=
  if b ≤ a then ret (a - b) else fail .panicked

def verifyClocks (protocol : Protocol) : Worker σ Unit := do
  let gate ← read io 0x19
  let exposure ← read io 0xb
  if gate &&& 1 = 0 ∧ exposure &&& 0x11 = 0 then ret ()
  else refuse (protocol.model ++ " clocks did not resume: BC19=0x" ++ gate.toHex ++
    ", BC0b=0x" ++ exposure.toHex)

def restoreClocks (protocol : Protocol) : Worker σ Unit := do
  edit io 0x19 (· &&& ~~~1)
  sleep io 100
  write io 0xb6 protocol.standbyRegister 1
  sleep io 100
  edit io 0xb (· &&& ~~~0x10)
  edit io 0xb (· &&& ~~~1)
  verifyClocks io protocol

def pulse : Worker σ Bool := do
  edit io 0 (· ||| 0x10)
  sleep io 5
  edit io 0 (· &&& ~~~0x10)
  sleep io 20
  let indication ← read io 0x23
  ret (indication &&& 0x10 != 0)

def synchronize : Nat → Worker σ Bool
  | 0 => ret false
  | pulses + 1 => do
    if ← pulse io then ret true else synchronize pulses

def gate (protocol : Protocol) (iteration : Nat) : Worker σ Unit :=
  match iteration with
  | 6 => write io 0xb6 protocol.standbyRegister 5
  | 8 => edit io 0x19 (· ||| 1)
  | 10 => edit io 0xb (· ||| 0x10)
  | _ => ret ()

def integrate (protocol : Protocol) (exposureMs trigger : Nat) : Nat → Nat → Worker σ Unit
  | 0, _ => fun bus => (.pending, bus)
  | rounds + 1, iteration => do
    gate io protocol iteration
    let elapsed := (← now io) - trigger
    service io
    sleep io 100
    let wait ← subtract exposureMs protocol.integrationCompensationMs
    if wait ≤ elapsed / 1000000 then ret ()
    else integrate protocol exposureMs trigger rounds (iteration + 1)

def integration (protocol : Protocol) (microseconds rounds : Nat) : Worker σ Unit := do
  edit io 0xb (· ||| 1)
  phase io "integrating"
  let exposureMs := microseconds / 1000
  if 1000 < exposureMs then do
    let trigger ← now io
    integrate io protocol exposureMs trigger rounds 0
  else do
    service io
    let wait ← subtract exposureMs protocol.oneSecondCompensationMs
    sleep io wait

def initialSyncSettle (protocol : Protocol) : Worker σ Unit :=
  if 0 < protocol.initialSyncSettleMs then sleep io protocol.initialSyncSettleMs
  else ret ()

def exposure (protocol : Protocol) (microseconds rounds : Nat) : Worker σ Unit := do
  initialSyncSettle io protocol
  if ← synchronize io 5 then integration io protocol microseconds rounds
  else refuse (protocol.model ++ " long exposure synchronization failed")

def expose (protocol : Protocol) (microseconds rounds : Nat) : Worker σ Unit := do
  phase io "synchronizing"
  match ← (exposure io protocol microseconds rounds).attempt with
  | .error .panicked => fail .panicked
  | .error (.error error) => do
    phase io "restoring_clocks"
    match ← (restoreClocks io protocol).attempt with
    | .ok () => fail (.error error)
    | .error (.error cleanup) =>
      refuse (protocol.model ++ " exposure failed: " ++ error.text ++
        "; clock restoration failed: " ++ cleanup.text)
    | .error .panicked => fail .panicked
  | .ok () => do
    phase io "restoring_clocks"
    restoreClocks io protocol

end

end Regain.Zwo
