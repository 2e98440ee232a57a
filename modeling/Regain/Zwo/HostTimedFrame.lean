import Regain.Zwo.HostTimedRun

/-!
# What an exposure leaves behind

The register bits that are not the exposure's own, the places where the environment is serviced and
the level of the synchronization pulse.
-/

namespace Regain.Zwo

open Lib
open Routine (continues_done meets_bind)

def Tracked (register : Register) : Prop :=
  register = 0 ∨ register = 0xb ∨ register = 0x19

/-- A camera whose three registers hold what was last written to them.  A failed write
may have arrived or not; `service()` may do anything. -/
structure Io.Stores {σ : Type} (io : Io σ) (content : σ → Register → Byte) : Prop where
  read : ∀ register camera value, Tracked register →
    (io.read register camera).1 = .ok value → value = content camera register
  read_keeps : ∀ register register' camera, Tracked register' →
    content (io.read register camera).2 register' = content camera register'
  write : ∀ register value camera, Tracked register →
    (io.write 0xbd register value camera).1 = .ok () →
    content (io.write 0xbd register value camera).2 register = value
  write_failed : ∀ register value camera, Tracked register →
    content (io.write 0xbd register value camera).2 register = value ∨
    content (io.write 0xbd register value camera).2 register = content camera register
  write_keeps : ∀ request register register' value camera, Tracked register' →
    request ≠ 0xbd ∨ register ≠ register' →
    content (io.write request register value camera).2 register' = content camera register'
  now : ∀ register camera, Tracked register →
    content (io.now camera).2 register = content camera register
  sleep : ∀ register duration camera, Tracked register →
    content (io.sleep duration camera) register = content camera register
  phase : ∀ register name camera, Tracked register →
    content (io.phase name camera) register = content camera register

def Io.SparesPulse {σ : Type} (io : Io σ) (content : σ → Register → Byte) : Prop :=
  ∀ camera, content (io.service camera).2 0 &&& 0x10 = content camera 0 &&& 0x10

section

variable {σ : Type} {io : Io σ} {content : σ → Register → Byte}

theorem Io.Stores.edit (hstores : io.Stores content) {register : Register}
    {f : Byte → Byte} {bus : Bus σ} {post : Progress Fault Unit → Bus σ → Prop}
    (htracked : Tracked register) (hread : ∀ error camera, (∀ register', Tracked register' →
        content camera register' = content bus.camera register') →
      post (.failed (.error error)) (bus.add (.read register (.error error)) camera))
    (hok : ∀ middle camera, (∀ register', Tracked register' → register' ≠ register →
        content camera register' = content bus.camera register') →
      content camera register = f (content bus.camera register) →
      post (.done ()) ((bus.add (.read register (.ok (content bus.camera register))) middle).add
        (.write 0xbd register (f (content bus.camera register)) (.ok ())) camera))
    (herror : ∀ error middle camera, (∀ register', Tracked register' → register' ≠ register →
        content camera register' = content bus.camera register') →
      (content camera register = f (content bus.camera register) ∨
        content camera register = content bus.camera register) → post (.failed (.error error))
        ((bus.add (.read register (.ok (content bus.camera register))) middle).add
          (.write 0xbd register (f (content bus.camera register)) (.error error)) camera)) :
    (Zwo.edit io register f).Meets bus post := by
  unfold Zwo.edit
  rw [meets_bind]
  apply meets_read
  · intro value middle hrun
    have hvalue : value = content bus.camera register :=
      hstores.read register bus.camera value htracked (by rw [hrun])
    have hmiddle : ∀ register', Tracked register' →
        content middle register' = content bus.camera register' := by
      intro register' htracked'
      have hkept := hstores.read_keeps register register' bus.camera htracked'
      rwa [hrun] at hkept
    subst hvalue
    rw [continues_done]
    have hothers : ∀ value camera result, io.write 0xbd register value middle = (result, camera) →
        ∀ register', Tracked register' → register' ≠ register →
        content camera register' = content bus.camera register' := by
      intro value camera result hwrite register' htracked' hne
      have hkept := hstores.write_keeps 0xbd register register' value middle htracked'
        (.inr fun h => hne h.symm)
      rw [hwrite] at hkept
      rw [hkept, hmiddle register' htracked']
    apply meets_write
    · intro camera hwrite
      rw [camera_add] at hwrite
      refine hok middle camera (hothers _ camera _ hwrite) ?_
      have hstored := hstores.write register (f (content bus.camera register)) middle htracked
        (by rw [hwrite])
      rwa [hwrite] at hstored
    · intro error camera hwrite
      rw [camera_add] at hwrite
      refine herror error middle camera (hothers _ camera _ hwrite) ?_
      have hstored := hstores.write_failed register (f (content bus.camera register)) middle htracked
      have hsame := hmiddle register htracked
      rw [hwrite] at hstored
      rwa [hsame] at hstored
  · intro error camera hrun
    refine hread error camera fun register' htracked' => ?_
    have hkept := hstores.read_keeps register register' bus.camera htracked'
    rwa [hrun] at hkept

end

/-- The camera as the last `service()` left it, or as it was at the start. -/
def leftByService {σ : Type} (initial : σ) (record : List (Moment σ)) : σ :=
  record.foldl (fun left moment => if moment.operation.isService then moment.camera else left)
    initial

def Framed {σ : Type} (content : σ → Register → Byte) (initial : σ) (bus : Bus σ) : Prop :=
  ∀ register, Tracked register →
    content bus.camera register &&& ~~~exposureBits register =
      content (leftByService initial bus.record) register &&& ~~~exposureBits register

section

variable {σ : Type} {io : Io σ} {content : σ → Register → Byte} {initial : σ}

theorem leftByService_add (bus : Bus σ) (operation : Operation) (camera : σ) :
    leftByService initial (bus.add operation camera).record =
      if operation.isService then camera else leftByService initial bus.record := by
  simp [leftByService, Bus.add]

theorem Framed.add {bus : Bus σ} {operation : Operation} {camera : σ}
    (hframed : Framed content initial bus) (hoperation : operation.isService = false)
    (hbits : ∀ register, Tracked register → content camera register &&& ~~~exposureBits register =
        content bus.camera register &&& ~~~exposureBits register) :
    Framed content initial (bus.add operation camera) := by
  intro register htracked
  rw [leftByService_add, hoperation, camera_add, hbits register htracked]
  exact hframed register htracked

theorem Framed.service (bus : Bus σ) (result : Except Error Unit) (camera : σ) :
    Framed content initial (bus.add (.service result) camera) := by
  intro register htracked
  rw [leftByService_add, camera_add]
  rfl

theorem edit_framed (hstores : io.Stores content) {register : Register} {f : Byte → Byte}
    (htracked : Tracked register) (hspares : Spares register f) :
    Maintains (Framed content initial) (edit io register f) := by
  intro bus hframed
  have hread : ∀ result camera, (∀ register', Tracked register' →
      content camera register' = content bus.camera register') →
      Framed content initial (bus.add (.read register result) camera) := by
    intro result camera hkept
    refine hframed.add rfl fun register' htracked' => ?_
    rw [hkept register' htracked']
  have hwrite : ∀ value result middle camera, (∀ register', Tracked register' →
        register' ≠ register → content camera register' = content bus.camera register') →
      (content camera register = f (content bus.camera register) ∨
        content camera register = content bus.camera register) →
      Framed content initial ((bus.add (.read register value) middle).add
        (.write 0xbd register (f (content bus.camera register)) result) camera) := by
    intro value result middle camera hothers hstored register' htracked'
    rw [leftByService_add, leftByService_add, camera_add]
    simp only [Operation.isService, Bool.false_eq_true, if_false]
    rw [← hframed register' htracked']
    by_cases hsame : register' = register
    · subst hsame
      cases hstored with
      | inl hnew => rw [hnew, hspares]
      | inr hold => rw [hold]
    · rw [hothers register' htracked' hsame]
  have hend : (edit io register f).Meets bus fun _ bus' => Framed content initial bus' := by
    apply hstores.edit htracked
    · exact fun error camera hkept => hread _ camera hkept
    · exact fun middle camera hothers hstored => hwrite _ _ middle camera hothers (.inl hstored)
    · exact fun error middle camera hothers hstored => hwrite _ _ middle camera hothers hstored
  exact hend

theorem framed_keeps (hstores : io.Stores content) : io.Keeps (Framed content initial) where
  read register := maintains_read (fun register' bus hframed => hframed.add rfl
    fun tracked htracked => by rw [hstores.read_keeps register' tracked _ htracked]) register
  standby register value := maintains_write fun bus hframed => hframed.add rfl
    fun tracked htracked => by
      rw [hstores.write_keeps _ _ tracked _ _ htracked (.inl (by decide))]
  gates register f hregister hspares := edit_framed hstores (.inr hregister) hspares
  sleep duration := fun bus hframed => hframed.add rfl
    fun tracked htracked => by rw [hstores.sleep tracked duration _ htracked]
  now := fun bus hframed => hframed.add rfl
    fun tracked htracked => by rw [hstores.now tracked _ htracked]

theorem phase_framed (hstores : io.Stores content) (name : String) :
    Maintains (Framed content initial) (phase io name) :=
  fun bus hframed => hframed.add rfl
    fun tracked htracked => by rw [hstores.phase tracked name _ htracked]

end

theorem undisturbed_append {operations : List Operation} {operation : Operation}
    (hoperations : Undisturbed operations) (hservice : operation.isService = true →
      raised operations = false ∧ restoring operations = false) :
    Undisturbed (operations ++ [operation]) := by
  intro before operation' after heq hisService
  cases List.eq_nil_or_concat after with
  | inl hnil =>
    subst hnil
    obtain ⟨hbefore, hlast⟩ := List.append_inj' heq rfl
    cases hlast
    subst hbefore
    exact hservice hisService
  | inr hconcat =>
    obtain ⟨after', last, hafter⟩ := hconcat
    rw [hafter, List.concat_eq_append, ← List.cons_append, ← List.append_assoc] at heq
    exact hoperations before operation' after' (List.append_inj' heq rfl).1 hisService

theorem restoring_append (operations : List Operation) (operation : Operation) :
    restoring (operations ++ [operation]) =
      (restoring operations || operation.startsRestoration) := by
  simp [restoring]

theorem raised_append (operations : List Operation) {operation : Operation}
    (hoperation : operation.writes 0xbd 0 = false) :
    raised (operations ++ [operation]) = raised operations := by
  unfold raised
  rw [List.foldl_append]
  cases operation with
  | write request register value result =>
    have hother : ¬(request = 0xbd ∧ register = 0) := by
      simpa [Operation.writes] using hoperation
    exact if_neg hother
  | read register result => rfl
  | service result => rfl
  | now instant => rfl
  | sleep duration => rfl
  | phase name => rfl

def Tidy {σ : Type} (bus : Bus σ) : Prop :=
  Undisturbed bus.operations ∧ restoring bus.operations = false

def Calm {σ : Type} (bus : Bus σ) : Prop :=
  Tidy bus ∧ raised bus.operations = false

section

variable {σ α β : Type} {io : Io σ}

theorem undisturbed_add {bus : Bus σ} {operation : Operation} (camera : σ)
    (hoperation : operation.isService = false) (hbus : Undisturbed bus.operations) :
    Undisturbed (bus.add operation camera).operations := by
  rw [operations_add]
  exact undisturbed_append hbus fun hservice => by simp [hoperation] at hservice

theorem tidy_add {bus : Bus σ} {operation : Operation} (camera : σ)
    (hoperation : operation.isService = false) (hstarts : operation.startsRestoration = false)
    (hbus : Tidy bus) : Tidy (bus.add operation camera) := by
  refine ⟨undisturbed_add camera hoperation hbus.1, ?_⟩
  rw [operations_add, restoring_append, hbus.2, hstarts]
  rfl

theorem calm_add {bus : Bus σ} {operation : Operation} (camera : σ)
    (hoperation : operation.isService = false) (hstarts : operation.startsRestoration = false)
    (hwrites : operation.writes 0xbd 0 = false) (hbus : Calm bus) :
    Calm (bus.add operation camera) := by
  refine ⟨tidy_add camera hoperation hstarts hbus.1, ?_⟩
  rw [operations_add, raised_append _ hwrites]
  exact hbus.2

theorem service_calm : Maintains Calm (service io) := by
  refine maintains_service fun bus hbus => ⟨⟨?_, ?_⟩, ?_⟩
  · rw [operations_add]
    exact undisturbed_append hbus.1.1 fun _ => ⟨hbus.2, hbus.1.2⟩
  · rw [operations_add, restoring_append, hbus.1.2]
    rfl
  · rw [operations_add, raised_append _ rfl]
    exact hbus.2

theorem undisturbed_keeps : io.Keeps fun bus => Undisturbed bus.operations where
  read := maintains_read fun _ _ hbus => undisturbed_add _ rfl hbus
  standby _ _ := maintains_write fun _ hbus => undisturbed_add _ rfl hbus
  gates _ _ _ _ := (maintains_read (fun _ _ hbus => undisturbed_add _ rfl hbus) _).bind
    fun _ => maintains_write fun _ hbus => undisturbed_add _ rfl hbus
  sleep _ := fun _ hbus => undisturbed_add _ rfl hbus
  now := fun _ hbus => undisturbed_add _ rfl hbus

theorem tidy_edit (register : Register) (f : Byte → Byte) : Maintains Tidy (edit io register f) :=
  (maintains_read (fun _ _ hbus => tidy_add _ rfl rfl hbus) _).bind
    fun _ => maintains_write fun _ hbus => tidy_add _ rfl rfl hbus

theorem tidy_sleep (duration : Nat) : Maintains Tidy (sleep io duration) :=
  fun _ hbus => tidy_add _ rfl rfl hbus

theorem calm_keeps : io.Keeps Calm where
  read := maintains_read fun _ _ hbus => calm_add _ rfl rfl rfl hbus
  standby _ _ := maintains_write fun _ hbus => calm_add _ rfl rfl
    (by simp [Operation.writes]) hbus
  gates _ _ hregister _ :=
    (maintains_read (fun _ _ hbus => calm_add _ rfl rfl rfl hbus) _).bind
      fun _ => maintains_write fun _ hbus => calm_add _ rfl rfl
        (by cases hregister with
            | inl h => subst h; simp [Operation.writes]
            | inr h => subst h; simp [Operation.writes]) hbus
  sleep _ := fun _ hbus => calm_add _ rfl rfl rfl hbus
  now := fun _ hbus => calm_add _ rfl rfl rfl hbus

def Settled : Progress Fault α → Bus σ → Prop
  | .done _, bus => Calm bus
  | .failed _, bus => Tidy bus
  | .pending, bus => Tidy bus

theorem Maintains.settled {worker : Worker σ α} (hworker : Maintains Calm worker) {bus : Bus σ}
    (hbus : Calm bus) : worker.Meets bus Settled := by
  have hend := hworker bus hbus
  unfold Routine.Meets
  cases hresult : (worker bus).1 with
  | done value => exact hend
  | failed fault => exact hend.1
  | pending => exact hend.1

theorem settled_bind {worker : Worker σ α} {next : α → Worker σ β} {bus : Bus σ}
    (hworker : worker.Meets bus Settled)
    (hnext : ∀ value bus', Calm bus' → (next value).Meets bus' Settled) :
    (worker >>= next).Meets bus Settled := by
  refine hworker.bind fun result bus' hresult => ?_
  cases result with
  | done value => exact hnext value bus' hresult
  | failed fault => exact hresult
  | pending => exact hresult

theorem tidy_bind {worker : Worker σ α} {next : α → Worker σ β} {bus : Bus σ}
    (hworker : Maintains Tidy worker) (hbus : Tidy bus)
    (hnext : ∀ value bus', Tidy bus' → (next value).Meets bus' Settled) :
    (worker >>= next).Meets bus Settled := by
  have hmid : worker.Meets bus fun _ bus' => Tidy bus' := hworker bus hbus
  refine hmid.bind fun result bus' hresult => ?_
  cases result with
  | done value => exact hnext value bus' hresult
  | failed fault => exact hresult
  | pending => exact hresult

theorem fallingEdge_settled {bus : Bus σ} (hbus : Tidy bus) :
    (edit io 0 (· &&& ~~~0x10)).Meets bus Settled := by
  refine tidy_bind (maintains_read (fun _ _ hbus => tidy_add _ rfl rfl hbus) 0) hbus
    fun flags bus' hbus' => ?_
  apply meets_write
  · intro camera hwrite
    refine ⟨tidy_add camera rfl rfl hbus', ?_⟩
    rw [operations_add]
    unfold raised
    rw [List.foldl_append]
    have hlow : flags &&& ~~~0x10 &&& 0x10 = 0 := andNot_and flags 0x10
    simpa using hlow
  · exact fun error camera hwrite => tidy_add camera rfl rfl hbus'

theorem pulse_settled {bus : Bus σ} (hbus : Tidy bus) : (pulse io).Meets bus Settled := by
  unfold pulse
  refine tidy_bind (tidy_edit _ _) hbus fun _ bus₁ hbus₁ => ?_
  refine tidy_bind (tidy_sleep _) hbus₁ fun _ bus₂ hbus₂ => ?_
  refine settled_bind (fallingEdge_settled hbus₂) fun _ bus₃ hbus₃ => ?_
  refine settled_bind ((calm_keeps.sleep 20).settled hbus₃) fun _ bus₄ hbus₄ => ?_
  exact settled_bind ((calm_keeps.read 0x23).settled hbus₄) fun _ bus₅ hbus₅ => hbus₅

theorem synchronize_settled (pulses : Nat) {bus : Bus σ} (hbus : Calm bus) :
    (synchronize io pulses).Meets bus Settled := by
  induction pulses generalizing bus with
  | zero => exact hbus
  | succ pulses ih =>
    unfold synchronize
    refine settled_bind (pulse_settled hbus.1) fun answered bus' hbus' => ?_
    cases answered with
    | true => exact hbus'
    | false => exact ih hbus'

theorem exposure_tidy {protocol : Protocol} {microseconds rounds : Nat} {bus : Bus σ}
    (hbus : Calm bus) :
    (exposure io protocol microseconds rounds).Meets bus fun _ bus' => Tidy bus' := by
  have hphase : Maintains Calm (phase io "integrating") :=
    fun bus hbus => calm_add _ rfl (by decide) rfl hbus
  have hsettle : Maintains Calm (initialSyncSettle io protocol) := by
    unfold initialSyncSettle
    split
    · exact calm_keeps.sleep _
    · exact maintains_ret ()
  have hend : (exposure io protocol microseconds rounds).Meets bus Settled := by
    unfold exposure
    refine settled_bind (hsettle.settled hbus) fun _ bus₁ hbus₁ => ?_
    refine settled_bind (synchronize_settled 5 hbus₁) fun synchronized bus₂ hbus₂ => ?_
    split
    · exact (integration_maintains calm_keeps service_calm hphase).settled hbus₂
    · exact hbus₂.1
  refine hend.mono fun result bus' hresult => ?_
  cases result with
  | done value => exact hresult.1
  | failed fault => exact hresult
  | pending => exact hresult

theorem expose_undisturbed {protocol : Protocol} {microseconds rounds : Nat} (initial : σ) :
    Undisturbed (expose io protocol microseconds rounds ⟨initial, []⟩).2.operations := by
  have hstart : Calm (phase io "synchronizing" ⟨initial, []⟩).2 := by
    refine calm_add _ rfl (by decide) rfl ⟨⟨?_, rfl⟩, rfl⟩
    intro before operation after heq
    cases before <;> cases heq
  refine expose_keeps (exposure_tidy hstart) (fun bus' hbus' => hbus'.1) (fun bus' hbus' => ?_)
    (restoreClocks_maintains undisturbed_keeps)
  exact undisturbed_add _ rfl hbus'.1

end

/-! ## Dark gates -/

def Dark {σ : Type} (content : σ → Register → Byte) (bus : Bus σ) : Prop :=
  content bus.camera 0 &&& 0x10 = 0 ∨ ∃ operation ∈ bus.operations, operation.failed = true

section

variable {σ : Type} {io : Io σ} {content : σ → Register → Byte}

theorem Dark.add {bus : Bus σ} {operation : Operation} {camera : σ} (hdark : Dark content bus)
    (hbit : content camera 0 &&& 0x10 = content bus.camera 0 &&& 0x10) :
    Dark content (bus.add operation camera) := by
  cases hdark with
  | inl hlow => exact .inl (by rw [camera_add, hbit, hlow])
  | inr hfailed =>
    obtain ⟨failed, hmem, hfailed⟩ := hfailed
    refine .inr ⟨failed, ?_, hfailed⟩
    rw [operations_add]
    exact List.mem_append_left _ hmem

theorem dark_failed {bus : Bus σ} {operation : Operation} {camera : σ}
    (hoperation : operation.failed = true) : Dark content (bus.add operation camera) := by
  refine .inr ⟨operation, ?_, hoperation⟩
  rw [operations_add]
  exact List.mem_append_right _ (List.mem_singleton_self operation)

theorem gates_dark (hstores : io.Stores content) {register : Register} (f : Byte → Byte)
    (hregister : register = 0xb ∨ register = 0x19) :
    Maintains (Dark content) (edit io register f) := by
  intro bus hdark
  have hne : (0 : Register) ≠ register := by
    cases hregister with
    | inl h => subst h; decide
    | inr h => subst h; decide
  have hend : (edit io register f).Meets bus fun _ bus' => Dark content bus' := by
    apply hstores.edit (.inr hregister)
    · exact fun error camera _ => dark_failed rfl
    · intro middle camera hothers _
      have hbit := hothers 0 (.inl rfl) hne
      cases hdark with
      | inl hlow => exact .inl (by rw [camera_add, hbit, hlow])
      | inr hfailed =>
        obtain ⟨failed, hmem, hfailed⟩ := hfailed
        refine .inr ⟨failed, ?_, hfailed⟩
        simp [hmem]
    · exact fun error middle camera _ _ => dark_failed rfl
  exact hend

theorem dark_keeps (hstores : io.Stores content) : io.Keeps (Dark content) where
  read := maintains_read fun register bus hdark =>
    hdark.add (by rw [hstores.read_keeps register 0 _ (.inl rfl)])
  standby register value := maintains_write fun bus hdark =>
    hdark.add (by rw [hstores.write_keeps _ _ 0 _ _ (.inl rfl) (.inl (by decide))])
  gates register f hregister _ := gates_dark hstores f hregister
  sleep duration := fun bus hdark => hdark.add (by rw [hstores.sleep 0 duration _ (.inl rfl)])
  now := fun bus hdark => hdark.add (by rw [hstores.now 0 _ (.inl rfl)])

theorem phase_dark (hstores : io.Stores content) (name : String) :
    Maintains (Dark content) (phase io name) :=
  fun bus hdark => hdark.add (by rw [hstores.phase 0 name _ (.inl rfl)])

theorem service_dark (hspares : io.SparesPulse content) : Maintains (Dark content) (service io) :=
  maintains_service fun bus hdark => hdark.add (hspares bus.camera)

theorem pulse_dark (hstores : io.Stores content) (bus : Bus σ) :
    (pulse io).Meets bus fun _ bus' => Dark content bus' := by
  unfold pulse
  rw [meets_bind]
  apply hstores.edit (.inl rfl)
  · exact fun error camera _ => dark_failed rfl
  · intro middle camera _ _
    rw [continues_done, meets_sleep, meets_bind]
    apply hstores.edit (.inl rfl)
    · exact fun error camera _ => dark_failed rfl
    · intro middle' camera' _ hlow
      have hrest : Maintains (Dark content) (do
          sleep io 20
          let indication ← read io 0x23
          Routine.ret (indication &&& 0x10 != 0)) :=
        ((dark_keeps hstores).sleep 20).bind fun _ => ((dark_keeps hstores).read 0x23).bind
          fun _ => maintains_ret _
      refine hrest _ (.inl ?_)
      rw [camera_add, hlow]
      exact andNot_and _ 0x10
    · exact fun error middle camera _ _ => dark_failed rfl
  · exact fun error middle camera _ _ => dark_failed rfl

theorem synchronize_dark (hstores : io.Stores content) (pulses : Nat) (bus : Bus σ) :
    (synchronize io (pulses + 1)).Meets bus fun _ bus' => Dark content bus' := by
  induction pulses generalizing bus with
  | zero =>
    unfold synchronize
    refine (pulse_dark hstores bus).bind fun result bus' hdark => ?_
    cases result with
    | failed fault => exact hdark
    | pending => exact hdark
    | done answered => cases answered <;> exact hdark
  | succ pulses ih =>
    unfold synchronize
    refine (pulse_dark hstores bus).bind fun result bus' hdark => ?_
    cases result with
    | failed fault => exact hdark
    | pending => exact hdark
    | done answered =>
      cases answered with
      | true => exact hdark
      | false => exact ih bus'

theorem exposure_dark (hstores : io.Stores content) (hspares : io.SparesPulse content)
    {protocol : Protocol} {microseconds rounds : Nat} (bus : Bus σ) :
    (exposure io protocol microseconds rounds).Meets bus fun _ bus' => Dark content bus' := by
  have hintegration : Maintains (Dark content) (integration io protocol microseconds rounds) :=
    integration_maintains (dark_keeps hstores) (service_dark hspares)
      (phase_dark hstores "integrating")
  have hsynchronized : ∀ bus' : Bus σ, Routine.Meets (do
      if ← synchronize io 5 then integration io protocol microseconds rounds
      else refuse (protocol.model ++ " long exposure synchronization failed"))
      bus' fun _ bus'' => Dark content bus'' := by
    intro bus'
    refine (synchronize_dark hstores 4 bus').bind fun result bus'' hdark => ?_
    cases result with
    | failed fault => exact hdark
    | pending => exact hdark
    | done synchronized =>
      cases synchronized with
      | true => exact hintegration bus'' hdark
      | false => exact hdark
  unfold exposure initialSyncSettle
  rw [meets_bind]
  split
  · exact hsynchronized _
  · exact hsynchronized _

end

/-! ## Exposures -/

/-- What holds when `expose` ends, and while its integration is still pending. -/
structure ClocksRunning {σ : Type} (io : Io σ) (protocol : Protocol) (initial : σ)
    (result : Progress Fault Unit) (bus : Bus σ) : Prop where
  restored : Acknowledged result → Restored protocol bus.operations
  framed : ∀ content, io.Stores content → Framed content initial bus
  undisturbed : Undisturbed bus.operations
  dark : ∀ content, io.Stores content → io.SparesPulse content →
    content bus.camera 0 &&& 0x10 ≠ 0 → ∃ operation ∈ bus.operations, operation.failed = true
  returned : result ≠ .failed .panicked

theorem expose_framed {σ : Type} {io : Io σ} {content : σ → Register → Byte}
    (hstores : io.Stores content) {protocol : Protocol} {microseconds rounds : Nat} (initial : σ) :
    Framed content initial (expose io protocol microseconds rounds ⟨initial, []⟩).2 := by
  have hservice : Maintains (Framed content initial) (service io) :=
    maintains_service fun bus _ => Framed.service bus _ _
  have hpulse : Maintains (Framed content initial) (pulse io) := by
    unfold pulse
    exact (edit_framed hstores (.inl rfl) (spares_or (by decide))).bind fun _ =>
      ((framed_keeps hstores).sleep 5).bind fun _ =>
      (edit_framed hstores (.inl rfl) (spares_andNot (by decide))).bind fun _ =>
      ((framed_keeps hstores).sleep 20).bind fun _ =>
      ((framed_keeps hstores).read 0x23).bind fun _ => maintains_ret _
  have hsynchronize : ∀ pulses, Maintains (Framed content initial) (synchronize io pulses) := by
    intro pulses
    induction pulses with
    | zero => exact maintains_ret false
    | succ pulses ih =>
      unfold synchronize
      refine hpulse.bind fun answered => ?_
      cases answered with
      | true => exact maintains_ret true
      | false => exact ih
  have hexposure : Maintains (Framed content initial)
      (exposure io protocol microseconds rounds) := by
    unfold exposure initialSyncSettle
    refine Maintains.bind ?_ fun _ => (hsynchronize 5).bind fun synchronized => ?_
    · split
      · exact (framed_keeps hstores).sleep _
      · exact maintains_ret ()
    · split
      · exact integration_maintains (framed_keeps hstores) hservice
          (phase_framed hstores "integrating")
      · exact maintains_fail _
  have hstart : Framed content initial (phase io "synchronizing" ⟨initial, []⟩).2 :=
    phase_framed hstores _ _ fun _ _ => rfl
  have hmeets : (exposure io protocol microseconds rounds).Meets
      (phase io "synchronizing" ⟨initial, []⟩).2 fun _ bus' => Framed content initial bus' :=
    hexposure _ hstart
  exact expose_keeps hmeets (fun _ hbus => hbus)
    (fun bus' hbus => phase_framed hstores _ bus' hbus)
    (restoreClocks_maintains (framed_keeps hstores))

theorem expose_dark {σ : Type} {io : Io σ} {content : σ → Register → Byte}
    (hstores : io.Stores content) (hspares : io.SparesPulse content) {protocol : Protocol}
    {microseconds rounds : Nat} (initial : σ) :
    Dark content (expose io protocol microseconds rounds ⟨initial, []⟩).2 :=
  expose_keeps (exposure_dark hstores hspares _) (fun _ hbus => hbus)
    (fun bus' hbus => phase_dark hstores _ bus' hbus)
    (restoreClocks_maintains (dark_keeps hstores))

/-- An exposure only ends well with the clocks running, and it never touches a bit that
is not its own. -/
theorem expose_clocksRunning {σ : Type} (io : Io σ) (htransfers : io.Transfers) (model : Model)
    (initial : σ) (microseconds rounds : Nat) (hlong : 1000000 ≤ microseconds) :
    ClocksRunning io model.protocol initial
      (expose io model.protocol microseconds rounds ⟨initial, []⟩).1
      (expose io model.protocol microseconds rounds ⟨initial, []⟩).2 where
  restored hacknowledged := by
    obtain ⟨mid, hrestored⟩ := expose_acknowledged htransfers hacknowledged
    exact restoreClocks_done hrestored
  framed content hstores := expose_framed hstores initial
  undisturbed := expose_undisturbed initial
  dark content hstores hspares hhigh := by
    cases expose_dark hstores hspares initial with
    | inl hlow => exact absurd hlow hhigh
    | inr hfailed => exact hfailed
  returned := by
    intro hpanicked
    cases hrun : expose io model.protocol microseconds rounds ⟨initial, []⟩ with
    | mk result bus =>
      rw [hrun] at hpanicked
      subst hpanicked
      exact expose_returned htransfers hlong _ _ _ hrun rfl

structure Bench where
  bd00 : Byte
  bd0b : Byte
  bd19 : Byte
  elapsedMs : Nat

def Bench.content (bench : Bench) (register : Register) : Byte :=
  if register = 0 then bench.bd00 else if register = 0xb then bench.bd0b
  else if register = 0x19 then bench.bd19 else 0x11

def Bench.store (bench : Bench) (register : Register) (value : Byte) : Bench :=
  if register = 0 then { bench with bd00 := value }
  else if register = 0xb then { bench with bd0b := value }
  else if register = 0x19 then { bench with bd19 := value } else bench

/-- The bench of the source's tests: every transfer succeeds, BC23 answers each pulse. -/
def benchIo : Io Bench where
  read register bench := (.ok (bench.content register), bench)
  write request register value bench :=
    (.ok (), if request = 0xbd then bench.store register value else bench)
  service bench := (.ok (), bench)
  now bench := (bench.elapsedMs * 1000000, bench)
  sleep duration bench := { bench with elapsedMs := bench.elapsedMs + duration }
  phase _ bench := bench

def Bench.start : Bench where
  bd00 := 0xc0
  bd0b := 0x44
  bd19 := 0xc0
  elapsedMs := 0

theorem benchIo_transfers : benchIo.Transfers where
  read _ _ _ herror := by cases herror
  write _ _ _ _ _ herror := by cases herror

theorem Bench.content_store (bench : Bench) {register : Register} (value : Byte)
    (htracked : Tracked register) : (bench.store register value).content register = value := by
  obtain rfl | rfl | rfl := htracked <;> rfl

theorem Bench.content_store_of_ne (bench : Bench) {register register' : Register} (value : Byte)
    (htracked : Tracked register') (hne : register ≠ register') :
    (bench.store register value).content register' = bench.content register' := by
  unfold Bench.store
  split
  · obtain rfl | rfl | rfl := htracked
    · exact absurd (by assumption) hne
    · rfl
    · rfl
  · split
    · obtain rfl | rfl | rfl := htracked
      · rfl
      · exact absurd (by assumption) hne
      · rfl
    · split
      · obtain rfl | rfl | rfl := htracked
        · rfl
        · rfl
        · exact absurd (by assumption) hne
      · rfl

theorem benchIo_stores : benchIo.Stores Bench.content where
  read _ _ _ _ hvalue := by cases hvalue; rfl
  read_keeps _ _ _ _ := rfl
  write _ value bench htracked _ := bench.content_store value htracked
  write_failed _ value bench htracked := .inl (bench.content_store value htracked)
  write_keeps request register register' value bench htracked hother := by
    by_cases hrequest : request = 0xbd
    · subst hrequest
      have hne : register ≠ register' := hother.resolve_left fun h => h rfl
      exact bench.content_store_of_ne value htracked hne
    · simp only [benchIo, if_neg hrequest]
  now _ _ _ := rfl
  sleep _ _ _ _ := rfl
  phase _ _ _ _ := rfl

theorem benchIo_clocksRunning : ClocksRunning benchIo Zwo.asi6200 Bench.start
      (expose benchIo Zwo.asi6200 2000000 20 ⟨Bench.start, []⟩).1
      (expose benchIo Zwo.asi6200 2000000 20 ⟨Bench.start, []⟩).2 ∧
    benchIo.Stores Bench.content ∧ benchIo.SparesPulse Bench.content ∧
    (expose benchIo Zwo.asi6200 2000000 20 ⟨Bench.start, []⟩).1.isDone = true :=
  ⟨expose_clocksRunning benchIo benchIo_transfers .asi6200 Bench.start 2000000 20 (by decide),
    benchIo_stores, fun _ => rfl, by decide +kernel⟩

end Regain.Zwo
