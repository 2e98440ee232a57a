import Regain.Zwo.HostTimed

/-!
# The clocks after a host-timed exposure

What a run of `expose` has done when it ends, read off its record.
-/

namespace Regain.Zwo

open Lib
open Routine (continues_done meets_act meets_bind)
open Routine (bind_done fail ret)

/-- A register transfer never fails with `CaptureCancelled`; only `service()` does. -/
structure Io.Transfers {σ : Type} (io : Io σ) : Prop where
  read : ∀ register camera error, (io.read register camera).1 = .error error →
    error.cancelled = false
  write : ∀ request register value camera error,
    (io.write request register value camera).1 = .error error → error.cancelled = false

def Operation.failed : Operation → Bool
  | .read _ (.error _) => true
  | .write _ _ _ (.error _) => true
  | _ => false

def Operation.isService : Operation → Bool
  | .service _ => true
  | _ => false

def Operation.writes (request : Byte) (register : Register) : Operation → Bool
  | .write request' register' _ _ => request' == request && register' == register
  | _ => false

def Bus.operations {σ : Type} (bus : Bus σ) : List Operation :=
  bus.record.map (·.operation)

def raised (operations : List Operation) : Bool :=
  operations.foldl (fun up operation =>
    match operation with
    | .write request register value _ =>
      if request = 0xbd ∧ register = 0 then value &&& 0x10 != 0 else up
    | _ => up) false

def Operation.startsRestoration : Operation → Bool
  | .phase name => name == "restoring_clocks"
  | _ => false

def restoring (operations : List Operation) : Bool :=
  operations.any (·.startsRestoration)

/-- `service()` is called neither between the edges of a pulse nor during the
restoration. -/
def Undisturbed (operations : List Operation) : Prop :=
  ∀ before operation after, operations = before ++ operation :: after →
    operation.isService = true → raised before = false ∧ restoring before = false

/-- BC19 and BC0b read back clear, with no write to them and no `service()` after. -/
def ReadsClear (operations : List Operation) : Prop :=
  ∃ before after gate exposure, operations = before ++ after ∧
    .read 0x19 (.ok gate) ∈ after ∧ gate &&& 1 = 0 ∧
    .read 0xb (.ok exposure) ∈ after ∧ exposure &&& 0x11 = 0 ∧
    ∀ operation ∈ after, operation.writes 0xbd 0x19 = false ∧
      operation.writes 0xbd 0xb = false ∧ operation.isService = false

/-- The gates read back clear and the last write to the standby register is an
acknowledged 1. -/
structure Restored (protocol : Protocol) (operations : List Operation) : Prop where
  readback : ReadsClear operations
  standby : ∃ before after, operations =
      before ++ .write 0xb6 protocol.standbyRegister 1 (.ok ()) :: after ∧
    ∀ operation ∈ after, operation.writes 0xb6 protocol.standbyRegister = false ∧
      operation.isService = false

def Acknowledged : Progress Fault Unit → Prop
  | .done () => True
  | .failed (.error error) => error.cancelled = true
  | .failed .panicked => False
  | .pending => False

section

variable {σ α : Type} {io : Io σ}

@[simp] theorem meets_propagate {result : Except Error α} {bus : Bus σ}
    {post : Progress Fault α → Bus σ → Prop} :
    (propagate result : Worker σ α).Meets bus post ↔
      match result with
      | .ok value => post (.done value) bus
      | .error error => post (.failed (.error error)) bus := by
  cases result <;> exact Iff.rfl

theorem meets_read {register : Register} {bus : Bus σ} {post : Progress Fault Byte → Bus σ → Prop}
    (hok : ∀ value camera, io.read register bus.camera = (.ok value, camera) →
      post (.done value) (bus.add (.read register (.ok value)) camera))
    (herror : ∀ error camera, io.read register bus.camera = (.error error, camera) →
      post (.failed (.error error)) (bus.add (.read register (.error error)) camera)) :
    (read io register).Meets bus post := by
  simp only [read, meets_bind, meets_act, continues_done, meets_propagate]
  cases hread : io.read register bus.camera with
  | mk result camera =>
    simp only
    cases result with
    | ok value => exact hok value camera hread
    | error error => exact herror error camera hread

theorem meets_write {request : Byte} {register : Register} {value : Byte} {bus : Bus σ}
    {post : Progress Fault Unit → Bus σ → Prop}
    (hok : ∀ camera, io.write request register value bus.camera = (.ok (), camera) →
      post (.done ()) (bus.add (.write request register value (.ok ())) camera))
    (herror : ∀ error camera, io.write request register value bus.camera = (.error error, camera) →
      post (.failed (.error error))
        (bus.add (.write request register value (.error error)) camera)) :
    (write io request register value).Meets bus post := by
  simp only [write, meets_bind, meets_act, continues_done, meets_propagate]
  cases hwrite : io.write request register value bus.camera with
  | mk result camera =>
    simp only
    cases result with
    | ok done => exact hok camera hwrite
    | error error => exact herror error camera hwrite

end

@[simp] theorem operations_add {σ : Type} (bus : Bus σ) (operation : Operation) (camera : σ) :
    (bus.add operation camera).operations = bus.operations ++ [operation] := by
  simp [Bus.operations, Bus.add]

@[simp] theorem camera_add {σ : Type} (bus : Bus σ) (operation : Operation) (camera : σ) :
    (bus.add operation camera).camera = camera :=
  rfl

def Maintains {σ α : Type} (I : Bus σ → Prop) (worker : Worker σ α) : Prop :=
  worker.Keeps fun bus bus' => I bus → I bus'

section

variable {σ α β : Type} {io : Io σ} {I : Bus σ → Prop}

theorem Maintains.bind {worker : Worker σ α} {next : α → Worker σ β} (hfirst : Maintains I worker)
    (hnext : ∀ value, Maintains I (next value)) : Maintains I (worker >>= next) :=
  Routine.Keeps.invariant_bind hfirst hnext

theorem maintains_ret (value : α) : Maintains I (ret value : Worker σ α) :=
  fun _ hbus => hbus

theorem maintains_fail (fault : Fault) : Maintains I (fail fault : Worker σ α) :=
  fun _ hbus => hbus

theorem maintains_propagate (result : Except Error α) :
    Maintains I (propagate result : Worker σ α) := by
  cases result with
  | ok value => exact maintains_ret value
  | error error => exact maintains_fail _

theorem maintains_subtract (a b : Nat) : Maintains I (subtract a b : Worker σ Nat) := by
  unfold subtract
  split
  · exact maintains_ret _
  · exact maintains_fail _

theorem maintains_read (hread : ∀ register bus, I bus →
      I (bus.add (.read register (io.read register bus.camera).1)
        (io.read register bus.camera).2)) (register : Register) : Maintains I (read io register) :=
  Maintains.bind (fun bus hbus => hread register bus hbus) fun result => maintains_propagate result

theorem maintains_write {request : Byte} {register : Register} {value : Byte}
    (hwrite : ∀ bus, I bus →
      I (bus.add (.write request register value (io.write request register value bus.camera).1)
        (io.write request register value bus.camera).2)) :
    Maintains I (write io request register value) :=
  Maintains.bind (fun bus hbus => hwrite bus hbus) fun result => maintains_propagate result

theorem maintains_service (hservice : ∀ bus, I bus →
      I (bus.add (.service (io.service bus.camera).1) (io.service bus.camera).2)) :
    Maintains I (service io) :=
  Maintains.bind (fun bus hbus => hservice bus hbus) fun result => maintains_propagate result

end

def exposureBits (register : Register) : Byte :=
  if register = 0 then 0x10 else if register = 0xb then 0x11 else if register = 0x19 then 0x01
  else 0

def Spares (register : Register) (f : Byte → Byte) : Prop :=
  ∀ flags, f flags &&& ~~~exposureBits register = flags &&& ~~~exposureBits register

/-- A property that survives whatever the worker does outside the handshake, `service()`
apart. -/
structure Io.Keeps {σ : Type} (io : Io σ) (I : Bus σ → Prop) : Prop where
  read : ∀ register, Maintains I (Zwo.read io register)
  standby : ∀ register value, Maintains I (Zwo.write io 0xb6 register value)
  gates : ∀ register f, register = 0xb ∨ register = 0x19 → Spares register f →
    Maintains I (edit io register f)
  sleep : ∀ duration, Maintains I (Zwo.sleep io duration)
  now : Maintains I (Zwo.now io)

theorem spares_or {register : Register} {mask : Byte}
    (hmask : mask &&& exposureBits register = mask) : Spares register (· ||| mask) := by
  intro flags
  rw [← hmask]
  ext i hi
  simp
  grind

theorem spares_andNot {register : Register} {mask : Byte}
    (hmask : mask &&& exposureBits register = mask) : Spares register (· &&& ~~~mask) := by
  intro flags
  rw [← hmask]
  ext i hi
  simp
  grind

theorem andNot_and (flags mask : Byte) : flags &&& ~~~mask &&& mask = 0 := by
  ext i hi
  simp

section

variable {σ : Type} {io : Io σ} {I : Bus σ → Prop} {protocol : Protocol}

theorem verifyClocks_maintains (hkeeps : io.Keeps I) : Maintains I (verifyClocks io protocol) := by
  unfold verifyClocks
  refine (hkeeps.read 0x19).bind fun gate => (hkeeps.read 0xb).bind fun exposure => ?_
  split
  · exact maintains_ret _
  · exact maintains_fail _

theorem restoreClocks_maintains (hkeeps : io.Keeps I) :
    Maintains I (restoreClocks io protocol) := by
  unfold restoreClocks
  have h19 : Maintains I (edit io 0x19 (· &&& ~~~1)) :=
    hkeeps.gates _ _ (.inr rfl) (spares_andNot (by decide))
  have hb10 : Maintains I (edit io 0xb (· &&& ~~~0x10)) :=
    hkeeps.gates _ _ (.inl rfl) (spares_andNot (by decide))
  have hb1 : Maintains I (edit io 0xb (· &&& ~~~1)) :=
    hkeeps.gates _ _ (.inl rfl) (spares_andNot (by decide))
  exact h19.bind fun _ => (hkeeps.sleep 100).bind fun _ => (hkeeps.standby _ 1).bind fun _ =>
    (hkeeps.sleep 100).bind fun _ => hb10.bind fun _ => hb1.bind fun _ =>
    verifyClocks_maintains hkeeps

theorem gate_maintains (hkeeps : io.Keeps I) (iteration : Nat) :
    Maintains I (gate io protocol iteration) := by
  unfold gate
  split
  · exact hkeeps.standby _ 5
  · exact hkeeps.gates _ _ (.inr rfl) (spares_or (by decide))
  · exact hkeeps.gates _ _ (.inl rfl) (spares_or (by decide))
  · exact maintains_ret _

theorem integrate_maintains (hkeeps : io.Keeps I) (hservice : Maintains I (service io))
    {exposureMs trigger : Nat} (rounds iteration : Nat) :
    Maintains I (integrate io protocol exposureMs trigger rounds iteration) := by
  induction rounds generalizing iteration with
  | zero => exact fun _ hbus => hbus
  | succ rounds ih =>
    unfold integrate
    refine (gate_maintains hkeeps iteration).bind fun _ => hkeeps.now.bind fun reading =>
      hservice.bind fun _ => (hkeeps.sleep 100).bind fun _ =>
      (maintains_subtract _ _).bind fun wait => ?_
    split
    · exact maintains_ret _
    · exact ih (iteration + 1)

theorem integration_maintains (hkeeps : io.Keeps I) (hservice : Maintains I (service io))
    (hphase : Maintains I (phase io "integrating")) {microseconds rounds : Nat} :
    Maintains I (integration io protocol microseconds rounds) := by
  have hgate : Maintains I (edit io 0xb (· ||| 1)) :=
    hkeeps.gates _ _ (.inl rfl) (spares_or (by decide))
  unfold integration
  refine hgate.bind fun _ => hphase.bind fun _ => ?_
  dsimp only
  split
  · exact hkeeps.now.bind fun trigger => integrate_maintains hkeeps hservice rounds 0
  · exact hservice.bind fun _ => (maintains_subtract _ _).bind fun wait => hkeeps.sleep wait

end

section

variable {σ : Type} {io : Io σ}

theorem read_done {register : Register} {bus bus' : Bus σ} {value : Byte}
    (hrun : read io register bus = (.done value, bus')) :
    bus'.operations = bus.operations ++ [.read register (.ok value)] := by
  obtain ⟨result, mid, hact, hpropagate⟩ := bind_done hrun
  cases hact
  cases hresult : (io.read register bus.camera).1 with
  | error error => rw [hresult] at hpropagate; cases hpropagate
  | ok value' =>
    rw [hresult] at hpropagate
    cases hpropagate
    change (bus.add _ _).operations = _
    rw [operations_add, hresult]

theorem write_done {request : Byte} {register : Register} {value : Byte} {bus bus' : Bus σ}
    (hrun : write io request register value bus = (.done (), bus')) :
    bus'.operations = bus.operations ++ [.write request register value (.ok ())] := by
  obtain ⟨result, mid, hact, hpropagate⟩ := bind_done hrun
  cases hact
  cases hresult : (io.write request register value bus.camera).1 with
  | error error => rw [hresult] at hpropagate; cases hpropagate
  | ok done =>
    rw [hresult] at hpropagate
    cases hpropagate
    change (bus.add _ _).operations = _
    rw [operations_add, hresult]

theorem sleep_done {duration : Nat} {bus bus' : Bus σ}
    (hrun : sleep io duration bus = (.done (), bus')) :
    bus'.operations = bus.operations ++ [.sleep duration] := by
  cases hrun
  exact operations_add bus _ _

theorem edit_done {register : Register} {f : Byte → Byte} {bus bus' : Bus σ}
    (hrun : edit io register f bus = (.done (), bus')) :
    ∃ flags, bus'.operations = bus.operations ++
      [.read register (.ok flags), .write 0xbd register (f flags) (.ok ())] := by
  obtain ⟨flags, mid, hread, hwrite⟩ := bind_done hrun
  refine ⟨flags, ?_⟩
  rw [write_done hwrite, read_done hread]
  simp

theorem verifyClocks_done {protocol : Protocol} {bus bus' : Bus σ}
    (hrun : verifyClocks io protocol bus = (.done (), bus')) :
    ∃ gate exposure, bus'.operations = bus.operations ++
        [.read 0x19 (.ok gate), .read 0xb (.ok exposure)] ∧
      gate &&& 1 = 0 ∧ exposure &&& 0x11 = 0 := by
  obtain ⟨gate, mid, hgate, hrest⟩ := bind_done hrun
  obtain ⟨exposure, last, hexposure, hcheck⟩ := bind_done hrest
  by_cases hclear : gate &&& 1 = 0 ∧ exposure &&& 0x11 = 0
  · rw [if_pos hclear] at hcheck
    cases hcheck
    refine ⟨gate, exposure, ?_, hclear⟩
    rw [read_done hexposure, read_done hgate]
    simp
  · rw [if_neg hclear] at hcheck
    cases hcheck

theorem restoreClocks_done {protocol : Protocol} {bus bus' : Bus σ}
    (hrun : restoreClocks io protocol bus = (.done (), bus')) :
    Restored protocol bus'.operations := by
  obtain ⟨_, bus₁, h₁, hrun⟩ := bind_done hrun
  obtain ⟨_, bus₂, h₂, hrun⟩ := bind_done hrun
  obtain ⟨_, bus₃, h₃, hrun⟩ := bind_done hrun
  obtain ⟨_, bus₄, h₄, hrun⟩ := bind_done hrun
  obtain ⟨_, bus₅, h₅, hrun⟩ := bind_done hrun
  obtain ⟨_, bus₆, h₆, hverify⟩ := bind_done hrun
  obtain ⟨flags₅, h₅⟩ := edit_done h₅
  obtain ⟨flags₆, h₆⟩ := edit_done h₆
  obtain ⟨gate, exposure, hverify, hgate, hexposure⟩ := verifyClocks_done hverify
  have h₃ := write_done h₃
  have h₄ := sleep_done h₄
  refine ⟨⟨bus₆.operations, _, gate, exposure, hverify, ?_, hgate, ?_, hexposure, ?_⟩,
    ⟨bus₂.operations, [.sleep 100, .read 0xb (.ok flags₅),
      .write 0xbd 0xb (flags₅ &&& ~~~0x10) (.ok ()), .read 0xb (.ok flags₆),
      .write 0xbd 0xb (flags₆ &&& ~~~1) (.ok ()), .read 0x19 (.ok gate),
      .read 0xb (.ok exposure)], ?_, ?_⟩⟩
  · simp
  · simp
  · simp [Operation.writes, Operation.isService]
  · rw [hverify, h₆, h₅, h₄, h₃]
    simp
  · simp [Operation.writes, Operation.isService]

end

end Regain.Zwo
