import Regain.Zwo.HostTimedClocks

/-!
# Host-timed exposures, from the first pulse to the restoration

Three properties of the bus are carried through the handshake, the integration and the
restoration: the frame of the exposure's register bits, the places where the environment
is serviced, and the falling edge of the pulse.
-/

namespace Regain.Zwo

open Lib
open Routine (meets_attempt meets_bind)
open Routine (act andThen fail failsWith_act failsWith_fail failsWith_modify failsWith_ret ret)

section

variable {σ α : Type} {io : Io σ} {P : Fault → Prop}

theorem failsWith_propagate {result : Except Error α}
    (herror : ∀ error, result = .error error → P (.error error)) :
    (propagate result : Worker σ α).FailsWith P := by
  cases result with
  | ok value => exact failsWith_ret value
  | error error => exact failsWith_fail (herror error rfl)

theorem failsWith_read {register : Register}
    (herror : ∀ camera error, (io.read register camera).1 = .error error → P (.error error)) :
    (read io register).FailsWith P := by
  intro bus fault bus' hrun
  cases hresult : (io.read register bus.camera).1 with
  | ok value =>
    simp only [read, bind, andThen, act, hresult, propagate, ret] at hrun
    cases hrun
  | error error =>
    simp only [read, bind, andThen, act, hresult, propagate, fail] at hrun
    cases hrun
    exact herror _ _ hresult

theorem failsWith_write {request : Byte} {register : Register} {value : Byte}
    (herror : ∀ camera error, (io.write request register value camera).1 = .error error →
      P (.error error)) : (write io request register value).FailsWith P := by
  intro bus fault bus' hrun
  cases hresult : (io.write request register value bus.camera).1 with
  | ok done =>
    simp only [write, bind, andThen, act, hresult, propagate, ret] at hrun
    cases hrun
  | error error =>
    simp only [write, bind, andThen, act, hresult, propagate, fail] at hrun
    cases hrun
    exact herror _ _ hresult

end

section

variable {σ : Type} {io : Io σ} {protocol : Protocol}

def Fault.Uncancelled (fault : Fault) : Prop :=
  ∃ error, fault = .error error ∧ error.cancelled = false

theorem edit_uncancelled (htransfers : io.Transfers) (register : Register) (f : Byte → Byte) :
    (edit io register f).FailsWith Fault.Uncancelled := by
  refine Routine.FailsWith.bind (failsWith_read fun camera error herror => ?_) fun flags =>
    failsWith_write fun camera error herror => ?_
  · exact ⟨error, rfl, htransfers.read _ _ _ herror⟩
  · exact ⟨error, rfl, htransfers.write _ _ _ _ _ herror⟩

theorem restoreClocks_uncancelled (htransfers : io.Transfers) :
    (restoreClocks io protocol).FailsWith Fault.Uncancelled := by
  have hread : ∀ register, (read io register).FailsWith Fault.Uncancelled := fun register =>
    failsWith_read fun camera error herror => ⟨error, rfl, htransfers.read _ _ _ herror⟩
  have hstandby : (write io 0xb6 protocol.standbyRegister 1).FailsWith Fault.Uncancelled :=
    failsWith_write fun camera error herror => ⟨error, rfl, htransfers.write _ _ _ _ _ herror⟩
  have hsleep : (sleep io 100).FailsWith Fault.Uncancelled := failsWith_modify _
  have hverify : (verifyClocks io protocol).FailsWith Fault.Uncancelled := by
    refine (hread 0x19).bind fun gate => (hread 0xb).bind fun exposure => ?_
    split
    · exact failsWith_ret ()
    · exact failsWith_fail ⟨_, rfl, rfl⟩
  exact (edit_uncancelled htransfers _ _).bind fun _ => hsleep.bind fun _ =>
    hstandby.bind fun _ => hsleep.bind fun _ => (edit_uncancelled htransfers _ _).bind fun _ =>
    (edit_uncancelled htransfers _ _).bind fun _ => hverify

end

def Fault.Returned (fault : Fault) : Prop :=
  fault ≠ .panicked

section

variable {σ : Type} {io : Io σ} {protocol : Protocol}

theorem read_returned (register : Register) : (read io register).FailsWith Fault.Returned :=
  failsWith_read fun _ _ _ hfault => by cases hfault

theorem write_returned (request : Byte) (register : Register) (value : Byte) :
    (write io request register value).FailsWith Fault.Returned :=
  failsWith_write fun _ _ _ hfault => by cases hfault

theorem edit_returned (register : Register) (f : Byte → Byte) :
    (edit io register f).FailsWith Fault.Returned :=
  (read_returned register).bind fun _ => write_returned _ _ _

theorem service_returned : (service io).FailsWith Fault.Returned := by
  refine Routine.FailsWith.bind (failsWith_act _) fun result =>
    failsWith_propagate fun error _ hfault => ?_
  cases hfault

theorem subtract_returned {a b : Nat} (hle : b ≤ a) :
    (subtract a b : Worker σ Nat).FailsWith Fault.Returned := by
  unfold subtract
  rw [if_pos hle]
  exact failsWith_ret _

theorem synchronize_returned (pulses : Nat) : (synchronize io pulses).FailsWith Fault.Returned := by
  induction pulses with
  | zero => exact failsWith_ret false
  | succ pulses ih =>
    have hpulse : (pulse io).FailsWith Fault.Returned :=
      (edit_returned _ _).bind fun _ => (failsWith_modify _).bind fun _ =>
        (edit_returned _ _).bind fun _ => (failsWith_modify _).bind fun _ =>
        (read_returned _).bind fun _ => failsWith_ret _
    refine hpulse.bind fun answered => ?_
    cases answered with
    | true => exact failsWith_ret true
    | false => exact ih

theorem integrate_returned {exposureMs trigger : Nat}
    (hle : protocol.integrationCompensationMs ≤ exposureMs) (rounds iteration : Nat) :
    (integrate io protocol exposureMs trigger rounds iteration).FailsWith Fault.Returned := by
  induction rounds generalizing iteration with
  | zero =>
    intro bus fault bus' hrun
    cases hrun
  | succ rounds ih =>
    have hgate : (gate io protocol iteration).FailsWith Fault.Returned := by
      unfold gate
      split
      · exact write_returned _ _ _
      · exact edit_returned _ _
      · exact edit_returned _ _
      · exact failsWith_ret ()
    unfold integrate
    refine hgate.bind fun _ => (failsWith_act _).bind fun reading =>
      service_returned.bind fun _ => (failsWith_modify _).bind fun _ =>
      (subtract_returned hle).bind fun wait => ?_
    split
    · exact failsWith_ret ()
    · exact ih (iteration + 1)

theorem Model.compensation_le (model : Model) {microseconds : Nat}
    (hlong : 1000000 ≤ microseconds) :
    model.protocol.integrationCompensationMs ≤ microseconds / 1000 ∧
      model.protocol.oneSecondCompensationMs ≤ microseconds / 1000 := by
  cases model <;> simp only [Model.protocol, Zwo.asi6200, Zwo.asi2600] <;> omega

theorem exposure_returned {model : Model} {microseconds : Nat} (hlong : 1000000 ≤ microseconds)
    (rounds : Nat) : (exposure io model.protocol microseconds rounds).FailsWith Fault.Returned := by
  have hfit := model.compensation_le hlong
  have hintegration : (integration io model.protocol microseconds rounds).FailsWith
      Fault.Returned := by
    refine (edit_returned _ _).bind fun _ => (failsWith_modify _).bind fun _ => ?_
    dsimp only
    split
    · exact (failsWith_act _).bind fun trigger => integrate_returned hfit.1 rounds 0
    · exact service_returned.bind fun _ => (subtract_returned hfit.2).bind fun wait =>
        failsWith_modify _
  unfold exposure
  refine Routine.FailsWith.bind ?_ fun _ => (synchronize_returned 5).bind fun synchronized => ?_
  · unfold initialSyncSettle
    split
    · exact failsWith_modify _
    · exact failsWith_ret ()
  · split
    · exact hintegration
    · exact failsWith_fail fun hfault => by cases hfault

end

section

variable {σ : Type} {io : Io σ} {protocol : Protocol} {microseconds rounds : Nat}

theorem meets_phase {α : Type} {name : String} {next : Unit → Worker σ α} {bus : Bus σ}
    {post : Progress Fault α → Bus σ → Prop} :
    (phase io name >>= next).Meets bus post ↔ (next ()).Meets (phase io name bus).2 post :=
  Iff.rfl

theorem meets_sleep {α : Type} {duration : Nat} {next : Unit → Worker σ α} {bus : Bus σ}
    {post : Progress Fault α → Bus σ → Prop} : (sleep io duration >>= next).Meets bus post ↔
      (next ()).Meets (sleep io duration bus).2 post :=
  Iff.rfl

/-- A run of `expose` ends where its closure ends, or where the restoration after it does. -/
theorem expose_keeps {J K : Bus σ → Prop} {bus : Bus σ}
    (hexposure : (exposure io protocol microseconds rounds).Meets
      (phase io "synchronizing" bus).2 fun _ bus' => J bus') (hleft : ∀ bus', J bus' → K bus')
    (hphase : ∀ bus', J bus' → K (phase io "restoring_clocks" bus').2)
    (hrestore : Maintains K (restoreClocks io protocol)) :
    K (expose io protocol microseconds rounds bus).2 := by
  have hend : (expose io protocol microseconds rounds).Meets bus fun _ bus' => K bus' := by
    unfold expose
    rw [meets_phase, meets_bind, meets_attempt]
    refine hexposure.mono fun result mid hmid => ?_
    have hrestored := hrestore _ (hphase mid hmid)
    cases result with
    | pending => exact hleft mid hmid
    | done done =>
      simp only [Routine.Attempted, Routine.Continues]
      rw [meets_phase]
      exact hrestored
    | failed fault =>
      simp only [Routine.Attempted, Routine.Continues]
      cases fault with
      | panicked => exact hleft mid hmid
      | error error =>
        rw [meets_phase, meets_bind, meets_attempt]
        unfold Routine.Meets
        cases hrun : restoreClocks io protocol (phase io "restoring_clocks" mid).2 with
        | mk cleanup bus' =>
          rw [hrun] at hrestored
          cases cleanup with
          | done done => exact hrestored
          | pending => exact hrestored
          | failed fault => cases fault <;> exact hrestored
  exact hend

theorem expose_acknowledged (htransfers : io.Transfers) {bus : Bus σ}
    (hacknowledged : Acknowledged (expose io protocol microseconds rounds bus).1) :
    ∃ mid, restoreClocks io protocol mid =
      (.done (), (expose io protocol microseconds rounds bus).2) := by
  revert hacknowledged
  have hend : (expose io protocol microseconds rounds).Meets bus fun result bus' =>
      Acknowledged result → ∃ mid, restoreClocks io protocol mid = (.done (), bus') := by
    unfold expose
    rw [meets_phase, meets_bind, meets_attempt]
    unfold Routine.Meets
    cases hexposure : exposure io protocol microseconds rounds
        (phase io "synchronizing" bus).2 with
    | mk result mid =>
      cases result with
      | pending => exact fun h => h.elim
      | done done =>
        simp only [Routine.Attempted, Routine.Continues]
        rw [meets_phase]
        unfold Routine.Meets
        cases hrun : restoreClocks io protocol (phase io "restoring_clocks" mid).2 with
        | mk cleanup bus' =>
          cases cleanup with
          | pending => exact fun h => h.elim
          | done done => exact fun _ => ⟨_, hrun⟩
          | failed fault =>
            intro hacknowledged
            obtain ⟨error, rfl, herror⟩ :=
              restoreClocks_uncancelled htransfers _ _ _ hrun
            have htrue : error.cancelled = true := hacknowledged
            rw [herror] at htrue
            cases htrue
      | failed fault =>
        simp only [Routine.Attempted, Routine.Continues]
        cases fault with
        | panicked => exact fun h => h.elim
        | error error =>
          rw [meets_phase, meets_bind, meets_attempt]
          unfold Routine.Meets
          cases hrun : restoreClocks io protocol (phase io "restoring_clocks" mid).2 with
          | mk cleanup bus' =>
            cases cleanup with
            | pending => exact fun h => h.elim
            | done done => exact fun _ => ⟨_, hrun⟩
            | failed fault =>
              cases fault with
              | panicked => exact fun h => h.elim
              | error cleanup => exact fun h => by cases h
  exact hend

theorem expose_returned {model : Model} (htransfers : io.Transfers)
    (hlong : 1000000 ≤ microseconds) :
    (expose io model.protocol microseconds rounds).FailsWith Fault.Returned := by
  have hrestore : (restoreClocks io model.protocol).FailsWith Fault.Returned := by
    intro bus fault bus' hrun hpanicked
    obtain ⟨error, herror, _⟩ := restoreClocks_uncancelled htransfers _ _ _ hrun
    rw [hpanicked] at herror
    cases herror
  have herror : ∀ error, Fault.Returned (.error error) := fun error hfault => by cases hfault
  unfold expose
  refine (failsWith_modify _).bind fun _ => ?_
  refine (exposure_returned hlong rounds).attempt (fun done => ?_) fun fault hfault => ?_
  · exact (failsWith_modify _).bind fun _ => hrestore
  · cases fault with
    | panicked => exact absurd rfl hfault
    | error error =>
      refine (failsWith_modify _).bind fun _ => ?_
      refine hrestore.attempt (fun done => failsWith_fail (herror error))
        fun cleanup hcleanup => ?_
      cases cleanup with
      | panicked => exact absurd rfl hcleanup
      | error cleanup => exact failsWith_fail (herror _)

end

end Regain.Zwo
