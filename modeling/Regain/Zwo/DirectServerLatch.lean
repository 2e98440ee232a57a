import Regain.Zwo.DirectServer

/-!
# Outcomes that require a reconnect

An outcome that leaves the camera in doubt requires a reconnect: no capture is admitted until the
camera has been closed and opened again. A clean frame that is downloaded lifts the requirement.
-/

namespace Regain.Zwo.DirectServer

open Lib

def Fault.alarms : Fault → Bool
  | .environment (.cooling error) => error.isUncertain
  | .capture _ => true
  | .unclean _ => true
  | .abortDeadline => true
  | .videoStop error => error = .deadline
  | _ => false

def alarms : Except Fault Reply → Bool
  | .ok (.image cleanupError _) => cleanupError.isSome
  | .ok _ => false
  | .error fault => fault.alarms

variable {Model Params : Type} (catalogue : Catalogue Model Params)

abbrev Op (Model Params : Type) := Command Model Params × World

abbrev Step (Model Params : Type) :=
  Transition (Host Model) (Op Model Params) (Except Fault Reply)

def Alarming (step : Step Model Params) : Prop :=
  alarms step.result = true

def Command.isCapture : Command Model Params → Bool
  | .validate _ => true
  | .start _ => true
  | _ => false

def Admitted (step : Step Model Params) : Prop :=
  step.op.1.isCapture = true ∧ step.result = .ok .null

def Command.isOpen : Command Model Params → Bool
  | .open_ _ => true
  | _ => false

def Reopened (step : Step Model Params) : Prop :=
  step.op.1.isOpen = true ∧ step.before.worker = none ∧ step.result = .ok .null

/-- After an alarm no capture is accepted before the camera is opened again. -/
def Latched (steps : List (Step Model Params)) : Prop :=
  ∀ before between after alarm capture,
    steps = before ++ alarm :: between ++ capture :: after →
    Alarming alarm → Admitted capture → ∃ opened ∈ between, Reopened opened

namespace Host

variable (host : Host Model)

def stopsVideo (params : Params) : Bool :=
  match host.request catalogue true params with
  | .ok request => request.deadlineInRange && host.videoActive && !request.videoMode
  | .error _ => false

def keepsAlarm (command : Command Model Params) (world : World) : Bool :=
  match command with
  | .status => host.reconnectRequired || host.frame.all fun frame => frame.isOk
  | .download =>
    !host.reconnectRequired || host.frame.all fun frame => !(frame.isOk && isClean frame)
  | .start params => !(host.stopsVideo catalogue params) || world.stopVideo ≠ .error .deadline
  | _ => true

@[simp] theorem update_reconnectRequired (arrival : TryRecv) :
    (host.update arrival).reconnectRequired = host.reconnectRequired := by
  unfold update
  grind -linarith

@[simp] theorem update_worker (arrival : TryRecv) : (host.update arrival).worker = host.worker := by
  unfold update
  grind -linarith

end Host

/-- The answer keeps the requirement, and an alarm raises it. -/
structure Keeps (host : Host Model) (answer : Answer Model) : Prop where
  lasts : host.reconnectRequired = true → answer.2.reconnectRequired = true
  raised : alarms answer.1 = true → answer.2.reconnectRequired = true

namespace Host

variable {catalogue} {host : Host Model}

theorem request_of_reconnect (catalogue : Catalogue Model Params) (starting : Bool)
    (params : Params) (h : host.reconnectRequired = true) :
    ∃ message, host.request catalogue starting params = .error message := by
  unfold request
  by_cases hworker : host.worker.isNone = true
  · exact ⟨_, if_pos hworker⟩
  · exact ⟨"exposure pending or reconnect required after cleanup failure", by simp [hworker, h]⟩

theorem keeps_refuse {host' : Host Model} (message : String)
    (h : host.reconnectRequired = true → host'.reconnectRequired = true) :
    Keeps host (host'.refuse message) :=
  ⟨h, fun halarm => by cases halarm⟩

attribute [local grind =] refuse alarms Fault.alarms CoolingError.isUncertain requireReconnect
  cancelVideo isClean Except.isOk Except.toBool

attribute [local grind cases] Keeps

theorem simulateFailures_keeps (count : Nat) : Keeps host (host.simulateFailures count) := by
  unfold simulateFailures
  constructor <;> grind -linarith

theorem configureWhiteBalance_keeps : Keeps host (host.configureWhiteBalance catalogue) := by
  unfold configureWhiteBalance
  constructor <;> grind -linarith

theorem getControl_keeps (control : Nat) (telemetry : Option Int) (reading : Except String Int) :
    Keeps host (host.getControl catalogue control telemetry reading) := by
  unfold getControl
  constructor <;> grind -linarith

theorem setEnvironment_keeps (environment : Except EnvironmentError Int) :
    Keeps host (host.setEnvironment environment) := by
  unfold setEnvironment
  split
  · exact ⟨fun _ => rfl, fun _ => rfl⟩
  · rename_i error hcertain
    refine ⟨id, fun halarm => ?_⟩
    cases error with
    | failed message => cases halarm
    | cooling error =>
      cases error with
      | uncertain message => exact absurd rfl (hcertain message)
      | _ => cases halarm
  · exact ⟨id, fun halarm => by cases halarm⟩

theorem setControl_keeps (control : Nat) (value : Int) (environment : Except EnvironmentError Int) :
    Keeps host (host.setControl catalogue control value environment) := by
  have henvironment : Keeps host (host.setEnvironment environment) :=
    setEnvironment_keeps environment
  unfold setControl
  constructor <;> grind -linarith

theorem validate_keeps (params : Params) : Keeps host (host.validate catalogue params) := by
  unfold validate
  constructor <;> grind -linarith

theorem dispatch_keeps (request : Request) (sent : Bool) :
    Keeps host (host.dispatch request sent) := by
  unfold dispatch
  constructor <;> grind -linarith

theorem start_keeps (params : Params) (stopVideo : Except VideoStopError Unit) (sent : Bool)
    (h : host.stopsVideo catalogue params = true → stopVideo ≠ .error .deadline) :
    Keeps host (host.start catalogue params stopVideo sent) := by
  by_cases hreconnect : host.reconnectRequired = true
  · obtain ⟨message, hrequest⟩ := request_of_reconnect catalogue true params
      hreconnect
    simp only [start, hrequest]
    exact keeps_refuse message id
  · have hdispatch := @dispatch_keeps
    unfold start
    unfold stopsVideo at h
    constructor <;> grind -linarith

theorem status_keeps (h : host.reconnectRequired = true ∨ host.frame.all (·.isOk) = true) :
    Keeps host host.status := by
  unfold status
  constructor <;> grind -linarith

theorem download_keeps (whiteBalance : Except String (List UInt8))
    (h : host.reconnectRequired = false ∨
      host.frame.all (fun frame => !(frame.isOk && isClean frame)) = true) :
    Keeps host (host.download whiteBalance) := by
  unfold download
  constructor <;> grind -linarith

theorem quiesce_keeps {aborted : Option Frame} {stopVideo : Except VideoStopError Unit}
    {result : Except Fault Unit} {after : Host Model}
    (h : host.quiesce aborted stopVideo = (result, after)) :
    (host.reconnectRequired = true → after.reconnectRequired = true) ∧
      ∀ fault, result = .error fault → fault.alarms = true → after.reconnectRequired = true := by
  unfold quiesce abort endVideo at h
  constructor <;> grind -linarith

theorem stop_keeps (aborted : Option Frame) (stopVideo : Except VideoStopError Unit) :
    Keeps host (host.stop aborted stopVideo) := by
  have hquiesce := @quiesce_keeps Model host aborted stopVideo
  unfold stop
  constructor <;> grind -linarith

theorem close_keeps (aborted : Option Frame) (stopVideo : Except VideoStopError Unit)
    (shutdown : Except String Unit) : Keeps host (host.close aborted stopVideo shutdown) := by
  have hquiesce := @quiesce_keeps Model host aborted stopVideo
  unfold close
  constructor <;> grind -linarith

theorem openCamera_keeps (model : Option Model) (opened : Except String Worker)
    (reading : Except String Int) :
    ((host.openCamera catalogue model opened reading).1 = .ok .null ∧ host.worker = none) ∨
      Keeps host (host.openCamera catalogue model opened reading) := by
  unfold openCamera
  by_cases hworker : host.worker.isSome = true
  · rw [if_pos hworker]
    exact .inr (keeps_refuse _ id)
  · have hnone : host.worker = none := by simpa using hworker
    rw [if_neg hworker]
    cases model with
    | none => exact .inr (keeps_refuse _ id)
    | some model =>
      cases opened with
      | error message => exact .inr ⟨id, fun halarm => by cases halarm⟩
      | ok worker =>
        by_cases hcooled : catalogue.cooled model = true
        · cases reading with
          | error message =>
            simp only [hcooled, if_true]
            exact .inr ⟨id, fun halarm => by cases halarm⟩
          | ok value => exact .inl ⟨by simp [hcooled], hnone⟩
        · exact .inl ⟨by simp [hcooled], hnone⟩

end Host

theorem perform_keeps {host : Host Model} {command : Command Model Params} {world : World}
    (h : host.keepsAlarm catalogue command world = true) :
    (command.isOpen = true ∧ host.worker = none ∧
        (perform catalogue host command world).1 = .ok .null) ∨
      Keeps host (perform catalogue host command world) := by
  cases command with
  | simulateReadFailures count => exact .inr (host.simulateFailures_keeps count)
  | open_ model =>
    rcases Host.openCamera_keeps model world.opened world.reading with hopened | hkeeps
    · exact .inl ⟨rfl, hopened.2, hopened.1⟩
    · exact .inr hkeeps
  | whiteBalance => exact .inr Host.configureWhiteBalance_keeps
  | get control => exact .inr (Host.getControl_keeps control world.telemetry world.reading)
  | set control value => exact .inr (Host.setControl_keeps control value world.environment)
  | validate params => exact .inr (Host.validate_keeps params)
  | start params =>
    refine .inr (Host.start_keeps params world.stopVideo world.sent ?_)
    simpa [Host.keepsAlarm, Decidable.imp_iff_not_or] using h
  | status => exact .inr (Host.status_keeps (by simpa [Host.keepsAlarm] using h))
  | download =>
    exact .inr (Host.download_keeps world.whiteBalance (by simpa [Host.keepsAlarm] using h))
  | stop => exact .inr (Host.stop_keeps world.aborted world.stopVideo)
  | close => exact .inr (Host.close_keeps world.aborted world.stopVideo world.shutdown)

theorem not_admitted {host : Host Model} (op : Op Model Params)
    (h : host.reconnectRequired = true) : ¬Admitted ((command catalogue).perform host op) := by
  obtain ⟨command, world⟩ := op
  have hupdate : (host.update world.arrival).reconnectRequired = true := by simpa using h
  rintro ⟨hcapture, hresult⟩
  cases command with
  | validate params =>
    obtain ⟨message, hrequest⟩ := Host.request_of_reconnect catalogue false params hupdate
    simp [Machine.perform, DirectServer.command, perform, Host.validate, hrequest,
      Host.refuse] at hresult
  | start params =>
    obtain ⟨message, hrequest⟩ := Host.request_of_reconnect catalogue true params hupdate
    simp [Machine.perform, DirectServer.command, perform, Host.start, hrequest,
      Host.refuse] at hresult
  | _ => cases hcapture

def KeepsAlarm (step : Step Model Params) : Prop :=
  (step.before.update step.op.2.arrival).keepsAlarm catalogue step.op.1 step.op.2 = true

theorem required_until : Machine.Until (command catalogue) (fun _ => True)
    (fun host => host.reconnectRequired = true)
    (fun step => Reopened step ∨ ¬KeepsAlarm catalogue step) := by
  intro host op _ hrequired
  by_cases hkeeps : (host.update op.2.arrival).keepsAlarm catalogue op.1 op.2 = true
  · rcases perform_keeps catalogue hkeeps with ⟨hopen, hworker, hresult⟩ | hlasts
    · exact .inl (.inl ⟨hopen, (host.update_worker op.2.arrival).symm.trans hworker, hresult⟩)
    · exact .inr (hlasts.lasts (by simpa using hrequired))
  · exact .inl (.inr hkeeps)

theorem required_of_alarm {host : Host Model} {op : Op Model Params}
    (hkeeps : KeepsAlarm catalogue ((command catalogue).perform host op))
    (halarm : Alarming ((command catalogue).perform host op)) :
    ((command catalogue).next host op).reconnectRequired = true := by
  rcases perform_keeps catalogue hkeeps with ⟨-, -, hresult⟩ | hraises
  · have hnone : alarms (.ok .null) = true := (congrArg alarms hresult).symm.trans halarm
    cases hnone
  · exact hraises.raised halarm

theorem always_true (host : Host Model) : (command catalogue).Inductive host fun _ => True :=
  ⟨trivial, fun _ _ => trivial⟩

/-- In a run whose steps all keep their alarms, an alarm lasts until the camera is reopened. -/
theorem alarmsLatched (host : Host Model) (ops : List (Op Model Params))
    (hkeeps : ∀ step ∈ (command catalogue).run host ops, KeepsAlarm catalogue step) :
    Latched ((command catalogue).run host ops) := by
  intro before between after alarm capture hrun halarm hadmitted
  have halarmed : KeepsAlarm catalogue alarm := hkeeps alarm (by rw [hrun]; simp)
  obtain ⟨released, hmem, hreleased⟩ := (required_until catalogue).between
    (fun step => KeepsAlarm catalogue step ∧ Alarming step) Admitted (always_true catalogue host)
    (fun _ _ _ h => required_of_alarm catalogue h.1 h.2)
    (fun _ op _ h => not_admitted catalogue op h) hrun ⟨halarmed, halarm⟩ hadmitted
  have hreleasedKeeps : KeepsAlarm catalogue released := hkeeps released (by
    rw [hrun]
    simp [hmem])
  exact ⟨released, hmem, hreleased.resolve_right fun h => h hreleasedKeeps⟩

/-- One model with a cooler, and captures whose parameters say whether they are videos. -/
def oneModel : Catalogue Unit Bool where
  cooled _ := true
  controls _ _ := [⟨16, true, -40, 30⟩, ⟨17, true, 0, 1⟩]
  color _ := true
  opened _ := ⟨8, 8, 0, 0, 0, 0, 3, 0⟩
  request _ settings _ videoMode := .ok ⟨settings, videoMode, false, true⟩

def closedHost : Host Unit where
  worker := none
  pending := false
  frame := none
  settings := ⟨0, 0, 0, 0, 0, 0, 0, 0⟩
  simulate := false
  model := ()
  gain := 0
  simulatedReadFailures := none
  reconnectRequired := false
  whiteBalance := false
  whiteBalanceFrame := none
  videoActive := false

def quiet : World where
  arrival := .empty
  opened := .ok ⟨false, false⟩
  telemetry := none
  reading := .ok 0
  environment := .ok 0
  stopVideo := .ok ()
  sent := true
  aborted := some (.error .cancelled)
  whiteBalance := .ok []
  shutdown := .ok ()

def uncertainWrite : World :=
  { quiet with environment := .error (.cooling (.uncertain "USB owner retired")) }

def finished (frame : Frame) : World :=
  { quiet with arrival := .received frame }

/-- A cooling write during the capture stays uncertain, and the frame is clean. -/
def uncertainDuringCapture : List (Op Unit Bool) :=
  [(.open_ (some ()), quiet), (.start false, quiet), (.set 17 1, uncertainWrite),
    (.download, finished (.ok ⟨none, []⟩)), (.start false, quiet)]

/-- A failed capture is reported by `status`, and the next one is validated. -/
def failureInStatus : List (Op Unit Bool) :=
  [(.open_ (some ()), quiet), (.start false, quiet),
    (.status, finished (.error (.failed "USB read failed"))), (.validate false, quiet)]

/-- A still capture waits in vain for the end of a video, and is started again. -/
def lateVideoStop : List (Op Unit Bool) :=
  [(.open_ (some ()), quiet), (.start true, quiet), (.download, finished (.ok ⟨none, []⟩)),
    (.start false, { quiet with stopVideo := .error .deadline }), (.start false, quiet)]

/-- A clean frame, a failed status and a failed video stop each lose an alarm. -/
theorem alarms_forgotten : ¬Latched ((command oneModel).run closedHost uncertainDuringCapture) ∧
      ¬Latched ((command oneModel).run closedHost failureInStatus) ∧
      ¬Latched ((command oneModel).run closedHost lateVideoStop) := by
  refine ⟨fun hlatched => ?_, fun hlatched => ?_, fun hlatched => ?_⟩
  · obtain ⟨opened, hmem, hopened⟩ := hlatched
      ((command oneModel).run closedHost (uncertainDuringCapture.take 2)) [_] [] _ _ rfl rfl
      ⟨rfl, rfl⟩
    rw [List.mem_singleton.mp hmem] at hopened
    exact absurd hopened.1 (by decide)
  · obtain ⟨opened, hmem, -⟩ := hlatched
      ((command oneModel).run closedHost (failureInStatus.take 2)) [] [] _ _ rfl rfl ⟨rfl, rfl⟩
    exact absurd hmem (List.not_mem_nil)
  · obtain ⟨opened, hmem, -⟩ := hlatched
      ((command oneModel).run closedHost (lateVideoStop.take 3)) [] [] _ _ rfl rfl ⟨rfl, rfl⟩
    exact absurd hmem (List.not_mem_nil)

/-- The failure of a capture is downloaded, and the camera is closed and opened again. -/
def reopenedAfterFailure : List (Op Unit Bool) :=
  [(.open_ (some ()), quiet), (.start false, quiet),
    (.download, finished (.error (.failed "USB read failed"))), (.start false, quiet),
    (.close, quiet), (.open_ (some ()), quiet), (.start false, quiet)]

theorem alarmsLatched_reopened :
    Latched ((command oneModel).run closedHost reopenedAfterFailure) := by
  refine alarmsLatched oneModel closedHost reopenedAfterFailure ?_
  intro step hmem
  simp only [reopenedAfterFailure, Machine.run, List.mem_cons, List.not_mem_nil, or_false] at hmem
  rcases hmem with rfl | rfl | rfl | rfl | rfl | rfl | rfl <;> rfl

end Regain.Zwo.DirectServer
