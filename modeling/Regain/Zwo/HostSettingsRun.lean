import Regain.Zwo.HostSettings

/-!
# Runs of a camera host

Every capture is handed over with the gain of the settings, and that is the reported gain unless the
reported one is negative.
-/

namespace Regain.Zwo.HostSettings

open Lib
open Checked
open Readout (Settings)

variable {lines : Settings → Nat} {host host' : Host}

/-- The clamped copy follows the signed gain, and an open camera reports both controls. -/
structure Kept (host : Host) : Prop where
  clamped : host.settings.gain = (max host.gain 0).toNat
  observed : host.worker.isSome = true → 0 ∈ host.configuredAt ∧ 5 ∈ host.configuredAt

theorem kept_assign (h : Kept host) (control : Nat) (value : Int) (written : Except Bool Unit) :
    Kept (host.assign control value written).2 := by
  unfold Host.assign
  split
  · refine ⟨rfl, fun hopen => ?_⟩
    obtain ⟨hgain, hoffset⟩ := h.observed hopen
    exact ⟨List.mem_cons_of_mem _ hgain, List.mem_cons_of_mem _ hoffset⟩
  · exact ⟨h.clamped, h.observed⟩
  · refine ⟨h.clamped, fun hopen => ?_⟩
    obtain ⟨hgain, hoffset⟩ := h.observed hopen
    exact ⟨List.mem_cons_of_mem _ hgain, List.mem_cons_of_mem _ hoffset⟩
  · split
    · exact h
    · exact ⟨h.clamped, h.observed⟩

theorem kept_set (h : Kept host) (control : Nat) (value : Int) (written : Except Bool Unit) :
    Kept (host.set control value written).2 := by
  unfold Host.set
  repeat' split
  all_goals first | exact h | exact kept_assign h control value written

theorem kept_open (h : Kept host) (model : Model) (opened : Checked Bool)
    (environment : Checked Unit) : Kept (host.openCamera model opened environment).2 := by
  unfold Host.openCamera
  by_cases hopen : host.worker.isSome = true
  · rw [if_pos hopen]
    exact h
  · rw [if_neg hopen]
    cases opened with
    | error fault => exact h
    | ok auxiliary =>
      dsimp only
      split
      · exact ⟨rfl, fun hsome => absurd hsome hopen⟩
      · exact ⟨rfl, fun _ => ⟨List.mem_cons_self, by simp⟩⟩

theorem kept_start (h : Kept host) (params : StartParams) (stopped : Checked Unit) (sent : Bool) :
    Kept (host.start lines params stopped sent).2 := by
  unfold Host.start
  repeat' split
  all_goals exact ⟨h.clamped, h.observed⟩

theorem kept_inductive (lines : Settings → Nat) : (machine lines).Inductive {} Kept := by
  refine ⟨⟨rfl, fun hopen => by cases hopen⟩, ?_⟩
  intro host command h
  cases command with
  | open_ model opened environment => exact kept_open h model opened environment
  | get control reading => exact h
  | getObservation control reading => exact h
  | set control value written => exact kept_set h control value written
  | start params stopped sent => exact kept_start h params stopped sent
  | other left =>
    refine ⟨h.clamped, fun hopen => h.observed ?_⟩
    simp only [Machine.next, machine, Host.leave] at hopen
    split at hopen
    · cases hopen
    · exact hopen

variable {params : StartParams}

theorem video_settings {settings found : Settings} {bin : Nat}
    (h : host.video params settings bin = .ok found) :
    found.gain = settings.gain ∧ found.offset = settings.offset := by
  unfold Host.video at h
  split at h
  · cases h
  · obtain ⟨_, h⟩ := ensure_bind_eq_ok.mp h
    obtain ⟨raw, _, h⟩ := bind_eq_ok.mp h
    obtain ⟨_, _, h⟩ := bind_eq_ok.mp h
    obtain ⟨_, h⟩ := ensure_bind_eq_ok.mp h
    obtain ⟨_, h⟩ := ensure_bind_eq_ok.mp h
    obtain ⟨_, h⟩ := ensure_bind_eq_ok.mp h
    obtain ⟨_, h⟩ := ensure_bind_eq_ok.mp h
    cases h
    exact ⟨rfl, rfl⟩

theorem parameters_settings {settings : Settings} {bin : Nat}
    (h : host.parameters params = .ok (settings, bin)) (hgain : params.gain = none) :
    settings.gain = host.settings.gain ∧ settings.offset = host.settings.offset := by
  unfold Host.parameters at h
  obtain ⟨_, _, h⟩ := bind_eq_ok.mp h
  obtain ⟨_, _, h⟩ := bind_eq_ok.mp h
  obtain ⟨_, _, h⟩ := bind_eq_ok.mp h
  obtain ⟨_, _, h⟩ := bind_eq_ok.mp h
  obtain ⟨_, _, h⟩ := bind_eq_ok.mp h
  obtain ⟨_, _, h⟩ := bind_eq_ok.mp h
  obtain ⟨gain, hsame, h⟩ := bind_eq_ok.mp h
  obtain ⟨_, _, h⟩ := bind_eq_ok.mp h
  obtain ⟨_, _, h⟩ := bind_eq_ok.mp h
  rw [hgain] at hsame
  cases hsame
  cases h
  exact ⟨rfl, rfl⟩

theorem work_settings {work : Work} (h : host.work lines params = .ok work)
    (hgain : params.gain = none) :
    work.gain = host.settings.gain ∧ work.settings.gain = host.settings.gain
      ∧ work.settings.offset = host.settings.offset := by
  unfold Host.work at h
  obtain ⟨⟨settings, bin⟩, hparameters, h⟩ := bind_eq_ok.mp h
  obtain ⟨hsame, hoffset⟩ := parameters_settings hparameters hgain
  obtain ⟨gain, hsigned, h⟩ := bind_eq_ok.mp h
  obtain ⟨_, _, h⟩ := bind_eq_ok.mp h
  obtain ⟨videoMode, _, h⟩ := bind_eq_ok.mp h
  obtain ⟨found, hfound, h⟩ := bind_eq_ok.mp h
  obtain ⟨_, _, h⟩ := bind_eq_ok.mp h
  obtain ⟨_, h⟩ := ensure_bind_eq_ok.mp h
  have hkept : found.gain = settings.gain ∧ found.offset = settings.offset := by
    cases videoMode with
    | true => exact video_settings hfound
    | false =>
      cases hfound
      exact ⟨rfl, rfl⟩
  have hvalue : gain = settings.gain := by
    unfold Host.signed at hsigned
    split at hsigned
    · cases hsigned
      rfl
    · cases hsigned
  cases h
  exact ⟨by rw [hvalue, hsame], by rw [hkept.1, hsame], by rw [hkept.2, hoffset]⟩

theorem start_work {stopped : Checked Unit} {sent : Bool} {work : Work}
    (h : (host.start lines params stopped sent).1 = .ok (some work)) :
    (∃ auxiliary, host.worker = some auxiliary) ∧ host.busy = false
      ∧ host.work lines params = .ok work := by
  unfold Host.start at h
  cases hworker : host.worker with
  | none =>
    rw [hworker] at h
    cases h
  | some auxiliary =>
    rw [hworker] at h
    dsimp only at h
    split at h
    · cases h
    · rename_i hidle
      split at h
      · cases h
      · rename_i found hfound
        split at h
        · cases h
        · split at h
          · cases h
          · split at h
            · cases h
              refine ⟨⟨auxiliary, rfl⟩, ?_, hfound⟩
              cases hbusy : host.busy with
              | false => rfl
              | true => simp [hbusy] at hidle
            · cases h

def Reports (host : Host) (control : Nat) (value : Int) : Prop :=
  ∀ reading, host.get control reading = .ok value ∧ host.getObservation control reading = .ok value

theorem reports_idle (h : Kept host) {auxiliary : Bool} (hworker : host.worker = some auxiliary)
    (hidle : host.busy = false) :
    Reports host 0 host.gain ∧ Reports host 5 host.settings.offset := by
  have hopen : host.worker.isSome = true := by
    rw [hworker]
    rfl
  obtain ⟨hgain, hoffset⟩ := h.observed hopen
  constructor
  · intro reading
    constructor
    · simp [Host.get, hworker, hidle, Model.controls, ensure, bind, Except.bind, pure, Except.pure]
    · simp [Host.getObservation, hworker, hgain, ensure, bind, Except.bind, pure, Except.pure]
  · intro reading
    constructor
    · simp [Host.get, hworker, hidle, Model.controls, ensure, bind, Except.bind, pure, Except.pure]
    · simp [Host.getObservation, hworker, hoffset, ensure, bind, Except.bind, pure, Except.pure]

theorem Reports.unique {control : Nat} {value value' : Int} (h : Reports host control value)
    (h' : Reports host control value') : value = value' := by
  have hvalue := (h (.ok 0)).1
  rw [(h' (.ok 0)).1] at hvalue
  cases hvalue
  rfl

def Faithful (host : Host) (work : Work) : Prop :=
  ∃ gain offset, Reports host 0 gain ∧ Reports host 5 offset ∧ work.gain = gain
    ∧ work.settings.gain = gain ∧ work.settings.offset = offset

theorem faithful_iff {work : Work} (h : Kept host) {auxiliary : Bool}
    (hworker : host.worker = some auxiliary) (hidle : host.busy = false)
    (hwork : host.work lines params = .ok work) (hgain : params.gain = none) :
    Faithful host work ↔ 0 ≤ host.gain := by
  obtain ⟨hreportsGain, hreportsOffset⟩ := reports_idle h hworker hidle
  obtain ⟨hcarried, hclamped, hoffset⟩ := work_settings hwork hgain
  have hkept := h.clamped
  constructor
  · rintro ⟨gain, offset, hreports, _, hsame, _, _⟩
    have hunique := hreports.unique hreportsGain
    omega
  · intro hnonneg
    exact ⟨host.gain, host.settings.offset, hreportsGain, hreportsOffset, by omega, by omega,
      by rw [hoffset]⟩

/-- In every run, a start without a gain override hands over the reported gain and offset exactly if
the reported gain is not negative. -/
theorem starts_faithful_iff (lines : Settings → Nat) (ops : List Command) :
    ∀ t ∈ (machine lines).run {} ops, ∀ params stopped sent work,
      t.op = .start params stopped sent → params.gain = none →
      t.result = .started (.ok (some work)) → (Faithful t.before work ↔ 0 ≤ t.before.gain) := by
  intro t hmem params stopped sent work hop hgain hresult
  obtain ⟨hkept, _, hstep⟩ := (kept_inductive lines).mem_run hmem
  rw [hstep] at hresult
  simp only [Machine.perform, machine, hop] at hresult
  have hstarted : (t.before.start lines params stopped sent).1 = .ok (some work) :=
    Reply.started.inj hresult
  obtain ⟨⟨auxiliary, hworker⟩, hidle, hwork⟩ := start_work hstarted
  exact faithful_iff hkept hworker hidle hwork hgain

private def fullFrame : StartParams :=
  { bin := some 1, width := some 6248, height := some 4176, x := some 0, y := some 0
    microseconds := some 100000 }

private def duoStart (gain : Int) : List Command :=
  [.open_ .duo (.ok false) (.ok ()), .set 0 gain (.ok ()), .start fullFrame (.ok ()) true]

private def duoWork (gain : Nat) : Work :=
  { settings := { Model.opened .duo with gain := gain }, videoMode := false, gain := gain, bin := 1 }

theorem starts_faithful_positive :
    Faithful ((machine fun _ => 1).final {} ((duoStart 100).take 2)) (duoWork 100)
      ↔ (0 : Int) ≤ 100 :=
  starts_faithful_iff (fun _ => 1) (duoStart 100) _
    (by
      simp only [duoStart, Machine.run, List.mem_cons]
      exact .inr (.inr (.inl rfl)))
    fullFrame (.ok ()) true (duoWork 100) rfl rfl (by decide)

/-- A Duo that reports a gain of -25 captures with a gain of 0. -/
theorem start_forgets_negative_gain :
    ¬ ∀ (lines : Settings → Nat) (ops : List Command), ∀ t ∈ (machine lines).run {} ops,
      ∀ params stopped sent work, t.op = .start params stopped sent → params.gain = none →
        t.result = .started (.ok (some work)) → Faithful t.before work := by
  intro hall
  have hfaithful := hall (fun _ => 1) (duoStart (-25)) _
    (by
      simp only [duoStart, Machine.run, List.mem_cons]
      exact .inr (.inr (.inl rfl)))
    fullFrame (.ok ()) true (duoWork 0) rfl rfl (by decide)
  obtain ⟨gain, offset, hreports, _, hgain, _⟩ := hfaithful
  have hvalue : ((machine fun _ => 1).final {} ((duoStart (-25)).take 2)).get 0 (.ok 0)
      = .ok (-25) := by
    decide
  cases hvalue.symm.trans (hreports (.ok 0)).1
  cases hgain

end Regain.Zwo.HostSettings
