import Regain.Zwo.BayerVideo

/-!
# Delivered frames

Whatever is transferred, a delivered frame stood in an intact envelope, a call restarts the stream
at most once, and a call that fails leaves a session that was stopped.
-/

namespace Regain.Zwo.BayerVideo

open Lib
open Exchange
open DefectMap (Defects)

/-! ## Frames -/

structure Intact (length counter : Nat) (data : List UInt8) : Prop where
  complete : data.length = length
  first : data.take 2 = [0x7e, 0x5a]
  last : data.drop (data.length - 2) = [0xf0, 0x3c]
  leading : u16At data 2 = counter
  trailing : u16At data (data.length - 4) = counter

variable {data : List UInt8}

theorem frameSequence_eq_ok {expected sequence : Nat} : frameSequence data expected = .ok sequence
      ↔ 16 ≤ expected ∧ Intact expected sequence data ∧ sequence ≠ 0 := by
  unfold frameSequence
  constructor
  · intro h
    split at h
    · cases h
    · rename_i hlength
      split at h
      · cases h
      · rename_i hmarkers
        dsimp only at h
        split at h
        · cases h
        · rename_i hcounter
          injection h with hsequence
          subst hsequence
          simp only [not_or, not_not, ne_eq] at hlength hmarkers hcounter
          exact ⟨hlength.1, ⟨hlength.2, hmarkers.1, hmarkers.2, rfl, hcounter.2.symm⟩, hcounter.1⟩
  · rintro ⟨hleast, hintact, hcounter⟩
    rw [if_neg (not_not.mpr ⟨hleast, hintact.complete⟩),
      if_neg (by simp [hintact.first, hintact.last])]
    dsimp only
    rw [hintact.leading, hintact.trailing, if_neg (by simp [hcounter])]

def counterAfter (previous dropped : Nat) : Nat :=
  (previous + dropped + 1) % 65536

theorem sequenceGap_counterAfter {previous dropped : Nat} (hprevious : previous < 65536)
    (hdropped : dropped < 32767) :
    sequenceGap (some previous) (counterAfter previous dropped) = .ok dropped := by
  have hdistance : (counterAfter previous dropped + 65536 - previous) % 65536 = dropped + 1 := by
    unfold counterAfter
    omega
  unfold sequenceGap
  simp only [hdistance]
  rw [if_neg (by omega), if_neg (by omega), Nat.add_sub_cancel]

theorem copyWithin_length {source target : Nat} (hsource : source + 4 ≤ data.length)
    (htarget : target + 4 ≤ data.length) :
    (copyWithin data source target).length = data.length := by
  simp only [copyWithin, List.length_append, List.length_take, List.length_drop]
  omega

theorem replaceEnvelope_ok (setup : Setup) (hlength : data.length = setup.length) :
    ∃ pixels, replaceEnvelope setup.color data setup.width = .ok pixels
      ∧ pixels.length = setup.length := by
  have hwide := setup.wide
  have hbytes : setup.width * 2 * 64 ≤ data.length := by
    have hrows := Nat.mul_le_mul_left (setup.width * 2) setup.high
    rw [hlength]
    unfold Setup.length
    calc setup.width * 2 * 64 ≤ setup.width * 2 * setup.height := hrows
      _ = setup.width * setup.height * 2 := Nat.mul_right_comm _ _ _
  have hwhole : data.length % (setup.width * 2) = 0 := by
    rw [hlength, Setup.length, Nat.mul_right_comm]
    exact Nat.mul_mod_right _ _
  have hleast : (if setup.color then setup.width * 2 * 5 else setup.width * 6) ≤ data.length := by
    split <;> omega
  have hrows : setup.width * 2 * (if setup.color then 2 else 1) ≤ setup.width * 4 := by
    split <;> omega
  refine ⟨_, if_pos ⟨by omega, hleast, hwhole⟩, ?_⟩
  rw [copyWithin_length, copyWithin_length, hlength]
  all_goals try rw [copyWithin_length]
  all_goals omega

theorem corrected_ok {setup : Setup} (map : setup.Map) (hlength : data.length = setup.length) :
    ∃ pixels, corrected map.val data = .ok pixels := by
  obtain ⟨defects, husable, hwidth, hheight⟩ := map
  have hframe : data.length = defects.width * defects.height * 2 := by
    rw [hlength, hwidth, hheight]
    rfl
  obtain ⟨pixels, hpixels, -⟩ := husable.correct_returns hframe
  refine ⟨pixels, ?_⟩
  unfold corrected
  rw [hpixels]

section

variable {setup : Setup} {session : Video setup}

theorem meets_notCancelled {post : List (Command × Reply) → Except Failure Unit → Video setup → Prop}
    (hcancelled : ∀ reply : Reply, reply.cancelled = true →
      post [(.cancelled, reply)] (.error (.other "video read cancelled")) session)
    (hnext : ∀ reply, post [(.cancelled, reply)] (.ok ()) session) :
    notCancelled.Meets session post := by
  simp only [notCancelled, meets_bind, meets_send, continues_ok, meets_ensure]
  intro reply
  cases hcase : reply.cancelled with
  | true => exact hcancelled reply hcase
  | false => exact hnext reply

theorem meets_perform {command : Command}
    {post : List (Command × Reply) → Except Failure Reply → Video setup → Prop}
    (hfailed : ∀ reply : Reply, reply.failed = true →
      post [(command, reply)] (.error (.other "USB transfer failed")) session)
    (hnext : ∀ reply, post [(command, reply)] (.ok reply) session) :
    (perform command).Meets session post := by
  simp only [perform, meets_bind, meets_send, continues_ok, meets_ensure]
  intro reply
  cases hcase : reply.failed with
  | true => exact hfailed reply hcase
  | false => exact hnext reply

/-! ## Transfers -/

def receive (session : Video setup) (data : List UInt8) : Except Failure Frame × Video setup :=
  match frameSequence data setup.length with
  | .error error => (.error error, session)
  | .ok sequence =>
    match sequenceGap session.previous sequence with
    | .error error => (.error error, session)
    | .ok skipped =>
      let counted : Video setup :=
        { session with previous := some sequence, delivered := session.delivered + 1 }
      match replaceEnvelope setup.color data setup.width with
      | .error error => (.error error, counted)
      | .ok pixels =>
        match corrected session.defects.val pixels with
        | .error error => (.error error, counted)
        | .ok pixels => (.ok ⟨sequence, skipped, session.delivered + 1, 0, pixels⟩, counted)

def Quiet (log : List (Command × Reply)) : Prop :=
  ∀ entry ∈ log, entry.1 ≠ .configure ∧ entry.1 ≠ .stop

structure Refused (session : Video setup) (log : List (Command × Reply))
    (ending : Except Failure Frame) (after : Video setup) : Prop where
  error : ∃ message, ending = .error (.other message)
  reply : ∃ entry ∈ log, entry.2.failed = true ∨ entry.2.cancelled = true
  same : after = session

def Received (session : Video setup) (log : List (Command × Reply))
    (ending : Except Failure Frame) (after : Video setup) : Prop :=
  ∃ reply, (Command.read setup.length, reply) ∈ log ∧ receive session reply.data = (ending, after)

variable {log : List (Command × Reply)}

theorem Quiet.append {rest : List (Command × Reply)} (h : Quiet log) (hrest : Quiet rest) :
    Quiet (log ++ rest) := by
  intro entry hmem
  exact (List.mem_append.mp hmem).elim (h entry) (hrest entry)

theorem meets_expose {post : List (Command × Reply) → Except Failure Unit → Video setup → Prop}
    (hfailed : ∀ reply : Reply, reply.failed = true →
      post [(.expose, reply)] (.error (.other "USB transfer failed")) session)
    (hnext : ∀ log, Quiet log → post log (.ok ()) session) : expose.Meets session post := by
  unfold expose
  cases setup.longExposure with
  | true =>
    simp only [if_true, meets_bind]
    refine meets_perform hfailed fun reply => hnext _ ?_
    simp [Quiet]
  | false => exact hnext [] (by simp [Quiet])

theorem read_cases : read.Meets session fun log ending after =>
    Quiet log ∧ (Refused session log ending after ∨ Received session log ending after) := by
  unfold read
  rw [meets_bind]
  refine meets_notCancelled (fun reply hreply => ?_) fun cancelled => ?_
  · exact ⟨by simp [Quiet], .inl ⟨⟨_, rfl⟩, ⟨_, List.mem_singleton_self _, .inr hreply⟩, rfl⟩⟩
  rw [continues_ok, meets_bind]
  refine meets_expose (fun reply hreply => ?_) fun exposed hexposed => ?_
  · refine ⟨by simp [Quiet], .inl ⟨⟨_, rfl⟩, ⟨(.expose, reply), by simp, .inl hreply⟩, rfl⟩⟩
  rw [continues_ok, meets_bind]
  refine meets_perform (fun reply hreply => ?_) fun reply => ?_
  · refine ⟨?_, .inl ⟨⟨_, rfl⟩, ⟨(.read setup.length, reply), by simp, .inl hreply⟩, rfl⟩⟩
    exact .append (by simp [Quiet]) (.append hexposed (by simp [Quiet]))
  rw [continues_ok, meets_bind]
  refine meets_notCancelled (fun later hlater => ?_) fun later => ?_
  · refine ⟨?_, .inl ⟨⟨_, rfl⟩, ⟨(.cancelled, later), by simp, .inr hlater⟩, rfl⟩⟩
    exact .append (by simp [Quiet]) (.append hexposed (by simp [Quiet]))
  -- The reply is a complete transfer: nothing is sent from here on.
  rw [continues_ok]
  have hquiet : ∀ rest, rest = [] →
      Quiet ([(.cancelled, cancelled)] ++ (exposed
        ++ ([(.read setup.length, reply)] ++ ([(.cancelled, later)] ++ rest)))) := by
    rintro _ rfl
    exact .append (by simp [Quiet]) (.append hexposed (by simp [Quiet]))
  cases hsequence : frameSequence reply.data setup.length with
  | error error =>
    refine ⟨hquiet _ rfl, .inr ⟨reply, by simp, ?_⟩⟩
    simp only [receive, hsequence]
  | ok sequence =>
    simp only [ofExcept, meets_bind, meets_ret, continues_ok, meets_get]
    cases hgap : sequenceGap session.previous sequence with
    | error error =>
      refine ⟨hquiet _ rfl, .inr ⟨reply, by simp, ?_⟩⟩
      simp only [receive, hsequence, hgap]
    | ok skipped =>
      simp only [meets_bind, meets_ret, continues_ok, meets_modify]
      cases hpixels : replaceEnvelope setup.color reply.data setup.width with
      | error error =>
        refine ⟨hquiet _ rfl, .inr ⟨reply, by simp, ?_⟩⟩
        simp only [receive, hsequence, hgap, hpixels]
      | ok pixels =>
        simp only [meets_bind, meets_ret, continues_ok]
        cases hcorrected : corrected session.defects.val pixels with
        | error error =>
          refine ⟨hquiet _ rfl, .inr ⟨reply, by simp, ?_⟩⟩
          simp only [receive, hsequence, hgap, hpixels, hcorrected]
        | ok pixels' =>
          refine ⟨hquiet _ rfl, .inr ⟨reply, by simp, ?_⟩⟩
          simp only [receive, hsequence, hgap, hpixels, hcorrected]

/-- A delivered frame comes from a transfer with an intact envelope. -/
structure Shows (setup : Setup) (data : List UInt8) (frame : Frame) : Prop where
  intact : Intact setup.length frame.boundarySequence data
  pixels : ∃ (map : setup.Map) (pixels : List UInt8),
    replaceEnvelope setup.color data setup.width = .ok pixels
      ∧ corrected map.val pixels = .ok frame.pixels

theorem receive_ok {data : List UInt8} {frame : Frame} {after : Video setup}
    (h : receive session data = (.ok frame, after)) :
    Shows setup data frame ∧ frame.boundarySequence ≠ 0
      ∧ sequenceGap session.previous frame.boundarySequence = .ok frame.skippedFrames
      ∧ after.active = session.active ∧ after.previous = some frame.boundarySequence := by
  unfold receive at h
  split at h
  · cases h
  · rename_i sequence hsequence
    split at h
    · cases h
    · rename_i skipped hgap
      dsimp only at h
      split at h
      · cases h
      · rename_i pixels hpixels
        split at h
        · cases h
        · rename_i pixels' hcorrected
          injection h with hframe hafter
          injection hframe with hframe
          subst hframe hafter
          obtain ⟨-, hintact, hcounter⟩ := frameSequence_eq_ok.mp hsequence
          exact ⟨⟨hintact, session.defects, pixels, hpixels, hcorrected⟩, hcounter, hgap, rfl, rfl⟩

theorem receive_active (session : Video setup) (data : List UInt8) :
    (receive session data).2.active = session.active := by
  unfold receive
  split
  · rfl
  · split
    · rfl
    · dsimp only
      split
      · rfl
      · split <;> rfl

theorem receive_intact {data : List UInt8} {counter skipped : Nat}
    (h : Intact setup.length counter data) (hcounter : counter ≠ 0)
    (hgap : sequenceGap session.previous counter = .ok skipped) :
    ∃ frame, (receive session data).1 = .ok frame ∧ frame.boundarySequence = counter
      ∧ frame.skippedFrames = skipped := by
  have hleast : 16 ≤ setup.length := by
    have hbytes := Nat.mul_le_mul setup.wide setup.high
    unfold Setup.length
    omega
  have hsequence := frameSequence_eq_ok.mpr ⟨hleast, h, hcounter⟩
  obtain ⟨pixels, hpixels, hlength⟩ := replaceEnvelope_ok setup h.complete
  obtain ⟨pixels', hcorrected⟩ := corrected_ok session.defects hlength
  refine ⟨⟨counter, skipped, session.delivered + 1, 0, pixels'⟩, ?_, rfl, rfl⟩
  simp only [receive, hsequence, hgap, hpixels, hcorrected]

/-! ## Recovery -/

def initializations (log : List (Command × Reply)) : Nat :=
  log.countP fun entry => entry.1 == .configure

def Stops (log : List (Command × Reply)) : Prop :=
  ∃ reply, (Command.stop, reply) ∈ log

@[simp] theorem initializations_append (log rest : List (Command × Reply)) :
    initializations (log ++ rest) = initializations log + initializations rest :=
  List.countP_append

theorem Quiet.initializations (h : Quiet log) : initializations log = 0 :=
  List.countP_eq_zero.mpr fun entry hmem => by simpa using (h entry hmem).1

theorem Stops.left (h : Stops log) (rest : List (Command × Reply)) : Stops (log ++ rest) := by
  obtain ⟨reply, hmem⟩ := h
  exact ⟨reply, List.mem_append_left rest hmem⟩

theorem Stops.right (h : Stops log) (rest : List (Command × Reply)) : Stops (rest ++ log) := by
  obtain ⟨reply, hmem⟩ := h
  exact ⟨reply, List.mem_append_right rest hmem⟩

theorem stop_meets : stop.Meets session fun log _ after =>
    initializations log = 0 ∧ after.active = false ∧ (session.active = true → Stops log) := by
  simp only [stop, meets_bind, meets_get, continues_ok]
  cases hcase : session.active || session.cleanupFailed with
  | false =>
    rw [Bool.or_eq_false_iff] at hcase
    exact ⟨rfl, hcase.1, fun hactive => absurd (hcase.1.symm.trans hactive) (by decide)⟩
  | true =>
    simp only [if_true, meets_bind, meets_modify, continues_ok, meets_send, meets_ensure]
    intro reply
    cases hreply : reply.failed with
    | true => exact ⟨rfl, trivial, fun _ => ⟨reply, by simp⟩⟩
    | false => exact ⟨rfl, trivial, fun _ => ⟨reply, by simp⟩⟩

theorem start_meets : start.Meets session fun log _ after =>
    initializations log = 1 ∧ (after.active = true ∨ after = session) := by
  simp only [start, meets_bind, meets_send, continues_ok]
  intro reply
  split
  · exact ⟨rfl, .inl rfl⟩
  · simp only [meets_bind, meets_send, continues_ok, meets_fail]
    exact fun _ => ⟨rfl, .inr trivial⟩

theorem restart_meets : restart.Meets session fun log _ _ =>
    initializations log ≤ 1 ∧ (session.active = true → Stops log) := by
  unfold restart
  refine Meets.bind stop_meets fun log ending mid hstop => ?_
  obtain ⟨hnone, -, hstops⟩ := hstop
  cases ending with
  | error error => exact ⟨by rw [hnone]; exact Nat.zero_le 1, hstops⟩
  | ok value =>
    rw [continues_ok]
    have hstart : ∀ paced : List (Command × Reply), Quiet paced →
        start.Meets mid fun rest _ _ => initializations (log ++ (paced ++ rest)) ≤ 1
          ∧ (session.active = true → Stops (log ++ (paced ++ rest))) := by
      intro paced hpaced
      refine start_meets.mono fun rest ending' last hlast => ?_
      refine ⟨?_, fun hactive => (hstops hactive).left _⟩
      rw [initializations_append, initializations_append, hnone, hpaced.initializations, hlast.1]
    cases setup.continuousDrain with
    | true => exact hstart [] (by simp [Quiet])
    | false =>
      simp only [Bool.false_eq_true, if_false, meets_bind]
      refine meets_perform (fun reply _ => ?_) fun reply => hstart _ (by simp [Quiet])
      refine ⟨?_, fun hactive => (hstops hactive).left _⟩
      rw [initializations_append, hnone]
      exact Nat.zero_le 1

def Sent (data : List UInt8) (log : List (Command × Reply)) : Prop :=
  ∀ entry ∈ log, entry.2.failed = false ∧ entry.2.cancelled = false ∧ entry.2.data = data

structure Delivers (setup : Setup) (counter skipped : Nat) (data : List UInt8)
    (log : List (Command × Reply)) (ending : Except Failure Frame) : Prop where
  undisturbed : initializations log = 0
  delivered : ∃ frame, ending = .ok frame ∧ frame.boundarySequence = counter
    ∧ frame.skippedFrames = skipped ∧ Shows setup data frame

structure Called (session : Video setup) (log : List (Command × Reply))
    (ending : Except Failure Frame) (after : Video setup) : Prop where
  starts : initializations log ≤ 1
  stopped : session.active = true → after.active = true ∨ Stops log
  shows : ∀ frame, ending = .ok frame →
    ∃ reply, (Command.read setup.length, reply) ∈ log ∧ Shows setup reply.data frame
      ∧ frame.boundarySequence ≠ 0
  delivers : session.active = true → ∀ data counter skipped, Sent data log →
    Intact setup.length counter data → counter ≠ 0 →
      sequenceGap session.previous counter = .ok skipped →
      Delivers setup counter skipped data log ending ∧ after.active = session.active
        ∧ after.previous = some counter

theorem recover_meets : recover.Meets session fun log ending after =>
    initializations log ≤ 1 ∧ (session.active = true → after.active = true ∨ Stops log)
      ∧ ∀ frame, ending = .ok frame →
        ∃ reply, (Command.read setup.length, reply) ∈ log ∧ Shows setup reply.data frame
          ∧ frame.boundarySequence ≠ 0 := by
  unfold recover
  rw [meets_bind]
  refine meets_notCancelled (fun reply _ => ?_) fun cancelled => ?_
  · exact ⟨Nat.zero_le 1, .inl, fun frame hframe => (by cases hframe)⟩
  rw [continues_ok]
  refine Meets.bind restart_meets fun log ending mid hrestart => ?_
  obtain ⟨hstarts, hstops⟩ := hrestart
  have hcount : initializations ([(.cancelled, cancelled)] ++ log) ≤ 1 := by
    rw [initializations_append]
    exact (Nat.zero_add _).le.trans hstarts
  cases ending with
  | error error =>
    refine ⟨hcount, fun hactive => .inr ((hstops hactive).right _), ?_⟩
    exact fun frame hframe => (by cases hframe)
  | ok value =>
    -- Whatever follows is quiet.
    have hwithin : ∀ rest, Quiet rest →
        initializations ([(.cancelled, cancelled)] ++ (log ++ rest)) ≤ 1
          ∧ (session.active = true → Stops ([(.cancelled, cancelled)] ++ (log ++ rest))) := by
      intro rest hrest
      refine ⟨?_, fun hactive => ((hstops hactive).left rest).right _⟩
      rw [initializations_append, initializations_append, hrest.initializations, Nat.add_zero,
        ← initializations_append]
      exact hcount
    rw [continues_ok, meets_bind]
    refine meets_notCancelled (fun reply _ => ?_) fun later => ?_
    · obtain ⟨hcount, hstops⟩ := hwithin [(.cancelled, reply)] (by simp [Quiet])
      exact ⟨hcount, fun hactive => .inr (hstops hactive), fun frame hframe => (by cases hframe)⟩
    rw [continues_ok]
    refine Meets.bind read_cases fun log' ending after hread => ?_
    obtain ⟨hquiet, hcases⟩ := hread
    have hlater : Quiet ([(.cancelled, later)] ++ log') := .append (by simp [Quiet]) hquiet
    obtain ⟨hcount, hstops⟩ := hwithin _ hlater
    cases ending with
    | error error =>
      exact ⟨hcount, fun hactive => .inr (hstops hactive), fun frame hframe => (by cases hframe)⟩
    | ok frame =>
      rw [continues_ok, meets_pure, List.append_nil]
      refine ⟨hcount, fun hactive => .inr (hstops hactive), ?_⟩
      intro _ hframe
      injection hframe with hframe
      subst hframe
      rcases hcases with hrefused | ⟨reply, hmem, hreceive⟩
      · obtain ⟨message, herror⟩ := hrefused.error
        cases herror
      · obtain ⟨hshows, hcounter, -⟩ := receive_ok hreceive
        exact ⟨reply, by simp [hmem], ⟨hshows.intact, hshows.pixels⟩, hcounter⟩

theorem called_received {frame : Frame} {after : Video setup} {cancelled : Reply}
    (hquiet : Quiet log) (h : Received session log (.ok frame) after) :
    Called session ([(.cancelled, cancelled)] ++ log) (.ok frame) after := by
  obtain ⟨reply, hmem, hreceive⟩ := h
  obtain ⟨hshows, hcounted, -, hactive, hprevious⟩ := receive_ok hreceive
  have hcount : initializations ([(.cancelled, cancelled)] ++ log) = 0 := by
    rw [initializations_append, hquiet.initializations]
    rfl
  refine ⟨hcount.le.trans (Nat.zero_le 1), fun h => .inl (hactive.trans h), ?_, ?_⟩
  · rintro _ ⟨⟩
    exact ⟨reply, List.mem_append_right _ hmem, hshows, hcounted⟩
  · intro _ data counter skipped hsent hintact hcounter hskipped
    have hdata := (hsent _ (List.mem_append_right _ hmem)).2.2
    dsimp only at hdata
    rw [hdata] at hreceive hshows
    obtain ⟨frame', hframe, hsequence, hskips⟩ := receive_intact hintact hcounter hskipped
    rw [hreceive] at hframe
    injection hframe with hframe
    subst hframe
    refine ⟨⟨hcount, frame, rfl, hsequence, hskips, hshows⟩, hactive, ?_⟩
    rw [hprevious, hsequence]

theorem not_delivers_error {error : Failure} {after : Video setup} {cancelled : Reply}
    (h : Refused session log (.error error) after ∨ Received session log (.error error) after)
    (rest : List (Command × Reply)) {data : List UInt8} {counter skipped : Nat}
    (hsent : Sent data ([(.cancelled, cancelled)] ++ (log ++ rest)))
    (hintact : Intact setup.length counter data) (hcounter : counter ≠ 0)
    (hgap : sequenceGap session.previous counter = .ok skipped) : False := by
  rcases h with hrefused | ⟨reply, hmem, hreceive⟩
  · obtain ⟨entry, hmem, hbad⟩ := hrefused.reply
    obtain ⟨hfailed, hcancelled, -⟩ := hsent entry (by simp [hmem])
    rcases hbad with hbad | hbad
    · exact absurd (hfailed.symm.trans hbad) (by decide)
    · exact absurd (hcancelled.symm.trans hbad) (by decide)
  · have hdata := (hsent (.read setup.length, reply) (by simp [hmem])).2.2
    dsimp only at hdata
    rw [hdata] at hreceive
    obtain ⟨frame, hframe, -⟩ := receive_intact hintact hcounter hgap
    rw [hreceive] at hframe
    cases hframe

theorem recoverFrameOnce_called :
    recoverFrameOnce.Meets session fun log ending after => Called session log ending after := by
  unfold recoverFrameOnce
  rw [meets_bind]
  refine meets_notCancelled (fun reply hreply => ?_) fun cancelled => ?_
  · refine ⟨Nat.zero_le 1, .inl, fun frame hframe => (by cases hframe), ?_⟩
    intro _ data counter skipped hsent
    exact absurd ((hsent _ (List.mem_singleton_self _)).2.1.symm.trans hreply) (by simp)
  rw [continues_ok, meets_bind, meets_attempt]
  refine read_cases.mono fun log ending after hread => ?_
  obtain ⟨hquiet, hcases⟩ := hread
  rw [continues_ok]
  cases ending with
  | ok frame =>
    simp only [meets_ret, List.append_nil]
    rcases hcases with hrefused | hreceived
    · obtain ⟨message, herror⟩ := hrefused.error
      cases herror
    · exact called_received hquiet hreceived
  | error error =>
    have hactive : after.active = session.active := by
      rcases hcases with hrefused | ⟨reply, -, hreceive⟩
      · rw [hrefused.same]
      · have hsame := receive_active session reply.data
        rwa [hreceive] at hsame
    have hfirst : initializations ([(.cancelled, cancelled)] ++ log) = 0 := by
      rw [initializations_append, hquiet.initializations]
      rfl
    have hnot : ∀ (rest : List (Command × Reply)) (ending : Except Failure Frame)
        (last : Video setup), session.active = true →
        ∀ (data : List UInt8) (counter skipped : Nat),
          Sent data ([(.cancelled, cancelled)] ++ (log ++ rest)) →
        Intact setup.length counter data → counter ≠ 0 →
        sequenceGap session.previous counter = .ok skipped →
        Delivers setup counter skipped data ([(.cancelled, cancelled)] ++ (log ++ rest)) ending
          ∧ last.active = session.active ∧ last.previous = some counter :=
      fun rest ending last _ data counter skipped hsent hintact hcounter hgap =>
        (not_delivers_error hcases rest hsent hintact hcounter hgap).elim
    cases error with
    | other message =>
      refine ⟨?_, fun h => .inl (hactive.trans h), fun frame hframe => (by cases hframe), ?_⟩
      · rw [← List.append_assoc, List.append_nil, hfirst]
        exact Nat.zero_le 1
      · exact hnot [] _ _
    | boundary message =>
      refine recover_meets.mono fun rest ending last hrecover => ?_
      obtain ⟨hstarts, hstopped, hshows⟩ := hrecover
      refine ⟨?_, fun h => ?_, fun frame hframe => ?_, hnot rest _ _⟩
      · rw [← List.append_assoc, initializations_append, hfirst, Nat.zero_add]
        exact hstarts
      · rcases hstopped (hactive.trans h) with hlast | hstops
        · exact .inl hlast
        · exact .inr ((hstops.right log).right _)
      · obtain ⟨reply, hmem, hshown⟩ := hshows frame hframe
        exact ⟨reply, by simp [hmem], hshown⟩

/-! ## Calls -/

/-- After an error the session is inactive, and a stop was attempted. -/
structure Guarded (session : Video setup) (log : List (Command × Reply))
    (ending : Except Failure Frame) (after : Video setup) : Prop where
  called : Called session log ending after
  inactive : ∀ error, ending = .error error →
    after.active = false ∧ (session.active = true → Stops log)

theorem next_guarded :
    next.Meets session fun log ending after => Guarded session log ending after := by
  simp only [next, meets_bind, meets_get, continues_ok, meets_ensure]
  cases hactive : session.active with
  | false =>
    refine ⟨⟨Nat.zero_le 1, fun h => ?_, fun frame hframe => (by cases hframe), fun h => ?_⟩, ?_⟩
    · exact absurd (hactive.symm.trans h) (by decide)
    · exact absurd (hactive.symm.trans h) (by decide)
    · exact fun error _ => ⟨hactive, fun h => absurd (hactive.symm.trans h) (by decide)⟩
  | true =>
    simp only [if_true, meets_attempt, List.nil_append]
    refine recoverFrameOnce_called.mono fun log ending mid hcalled => ?_
    rw [continues_ok]
    cases ending with
    | ok frame =>
      rw [meets_ret, List.append_nil]
      exact ⟨hcalled, fun error herror => by cases herror⟩
    | error error =>
      simp only [meets_bind, meets_attempt]
      refine stop_meets.mono fun rest _ after hstop => ?_
      obtain ⟨hnone, hinactive, hstops⟩ := hstop
      have hstopped : Stops (log ++ rest) := by
        cases hmid : mid.active with
        | true => exact (hstops hmid).right log
        | false =>
          rcases hcalled.stopped hactive with hlast | hearlier
          · exact absurd (hmid.symm.trans hlast) (by decide)
          · exact hearlier.left rest
      rw [continues_ok, meets_fail, List.append_nil]
      refine ⟨⟨?_, fun _ => .inr hstopped, fun frame hframe => (by cases hframe), ?_⟩, ?_⟩
      · rw [initializations_append, hnone]
        exact hcalled.starts
      · intro _ data counter skipped hsent hintact hcounter hgap
        obtain ⟨⟨-, frame, hframe, -⟩, -⟩ := hcalled.delivers hactive data counter skipped
          (fun entry hmem => hsent entry (List.mem_append_left rest hmem)) hintact hcounter hgap
        cases hframe
      · exact fun _ _ => ⟨hinactive, fun _ => hstopped⟩

end

section

variable {setup : Setup}

abbrev Step (setup : Setup) : Type :=
  Transition (Video setup) (Request × (Nat → Reply))
    (Exchange.Answered Command Reply Failure (Option Frame))

structure Safe (t : Step setup) : Prop where
  shows : ∀ frame, t.result.ending = .ok (some frame) →
    ∃ reply, (Command.read setup.length, reply) ∈ t.result.log ∧ Shows setup reply.data frame
  starts : initializations t.result.log ≤ 1
  inactive : ∀ error, t.op.1 = .next → t.result.ending = .error error →
    t.after.active = false ∧ (t.before.active = true → Stops t.result.log)

/-! ## Streams -/

/-- A frame of a camera: how many were dropped before it, its bytes, and how the commands that read
it end. -/
structure Transfer where
  dropped : Nat
  data : List UInt8
  replies : Nat → Reply

/-- A camera that sends intact frames whose counter goes on by one for every frame. -/
def Streams (length : Nat) : Nat → List Transfer → Prop
  | _, [] => True
  | previous, transfer :: rest =>
    transfer.dropped < 32767
      ∧ Intact length (counterAfter previous transfer.dropped) transfer.data
      ∧ (∀ index, (transfer.replies index).failed = false
          ∧ (transfer.replies index).cancelled = false
          ∧ (transfer.replies index).data = transfer.data)
      ∧ Streams length (counterAfter previous transfer.dropped) rest

structure Expected where
  counter : Nat
  skipped : Nat
  data : List UInt8

def expected (known : Bool) (previous : Nat) : List Transfer → List Expected
  | [] => []
  | transfer :: rest =>
    ⟨counterAfter previous transfer.dropped, if known then transfer.dropped else 0, transfer.data⟩
      :: expected true (counterAfter previous transfer.dropped) rest

def Transfer.call (transfer : Transfer) : Request × (Nat → Reply) :=
  (.next, transfer.replies)

/-- A call that delivers the expected frame without a restart. -/
structure Accounts (frame : Expected) (t : Step setup) : Prop where
  undisturbed : initializations t.result.log = 0
  delivered : ∃ delivered, t.result.ending = .ok (some delivered)
    ∧ delivered.boundarySequence = frame.counter ∧ delivered.skippedFrames = frame.skipped
    ∧ Shows setup frame.data delivered

theorem next_perform (session : Video setup) (replies : Nat → Reply) :
    ∃ ending, ((machine setup).perform session (.next, replies)).result.ending = ending.map some
      ∧ Guarded session ((machine setup).perform session (.next, replies)).result.log ending
        ((machine setup).perform session (.next, replies)).after := by
  have hmeets : (serve .next : VideoExchange setup (Option Frame)).Meets session
      fun log ending' after =>
      ∃ ending : Except Failure Frame, ending' = ending.map some
        ∧ Guarded session log ending after := by
    refine Meets.bind next_guarded fun log ending after hguarded => ?_
    cases ending with
    | error error => exact ⟨.error error, rfl, hguarded⟩
    | ok frame =>
      rw [continues_ok, meets_pure, List.append_nil]
      exact ⟨.ok frame, rfl, hguarded⟩
  exact Meets.perform hmeets replies

theorem stop_perform (session : Video setup) (replies : Nat → Reply) :
    (∀ frame, ((machine setup).perform session (.stop, replies)).result.ending ≠ .ok (some frame))
      ∧ initializations ((machine setup).perform session (.stop, replies)).result.log = 0
      ∧ (session.active = true →
        Stops ((machine setup).perform session (.stop, replies)).result.log) := by
  have hmeets : (serve .stop : VideoExchange setup (Option Frame)).Meets session
      fun log ending after => (∀ frame, ending ≠ .ok (some frame)) ∧ initializations log = 0
        ∧ (session.active = true → Stops log) := by
    refine Meets.bind stop_meets fun log ending after hstop => ?_
    cases ending with
    | error error => exact ⟨fun frame hframe => (by cases hframe), hstop.1, hstop.2.2⟩
    | ok value =>
      rw [continues_ok, meets_pure, List.append_nil]
      exact ⟨fun frame hframe => (by cases hframe), hstop.1, hstop.2.2⟩
  exact Meets.perform hmeets replies

theorem perform_safe (session : Video setup) (op : Request × (Nat → Reply)) :
    Safe ((machine setup).perform session op) := by
  obtain ⟨request, replies⟩ := op
  cases request with
  | next =>
    obtain ⟨ending, hending, hguarded⟩ := next_perform session replies
    refine ⟨fun frame hframe => ?_, hguarded.called.starts, fun error _ herror => ?_⟩
    · rw [hending] at hframe
      cases ending with
      | error error => cases hframe
      | ok delivered =>
        injection hframe with hframe
        injection hframe with hframe
        subst hframe
        obtain ⟨reply, hmem, hshows, -⟩ := hguarded.called.shows _ rfl
        exact ⟨reply, hmem, hshows⟩
    · rw [hending] at herror
      cases ending with
      | ok delivered => cases herror
      | error error => exact hguarded.inactive error rfl
  | stop =>
    obtain ⟨hending, hstarts, -⟩ := stop_perform session replies
    refine ⟨fun frame hframe => (hending frame hframe).elim, hstarts.le.trans (Nat.zero_le 1), ?_⟩
    exact fun error hop => by cases hop

theorem stopped_of_inactive (defects : setup.Map) (ops : List (Request × (Nat → Reply)))
    (h : ((machine setup).final (started defects) ops).active = false) :
    Stops ((machine setup).emitted (·.log) (started defects) ops) := by
  have hstep : ∀ (log : List (Command × Reply)) (session : Video setup)
      (op : Request × (Nat → Reply)), (session.active = false → Stops log) →
        ((machine setup).next session op).active = false →
          Stops (log ++ ((machine setup).step session op).1.log) := by
    rintro log session ⟨request, replies⟩ hkept hinactive
    cases hactive : session.active with
    | false => exact (hkept hactive).left _
    | true =>
      refine Stops.right ?_ log
      cases request with
      | stop => exact (stop_perform session replies).2.2 hactive
      | next =>
        obtain ⟨ending, -, hguarded⟩ := next_perform session replies
        rcases hguarded.called.stopped hactive with hlater | hstops
        · exact absurd (hinactive.symm.trans hlater) (by decide)
        · exact hstops
  have hkept := @Machine.emitted_kept _ _ _ (machine setup) (started defects) _
    (fun answered => answered.log) (fun log session => session.active = false → Stops log) hstep []
    (fun hinactive => by cases hinactive) ops
  simpa using hkept h

theorem accounts_first {session : Video setup} {transfer : Transfer} {counter skipped : Nat}
    (hactive : session.active = true) (hintact : Intact setup.length counter transfer.data)
    (hreplies : ∀ index, (transfer.replies index).failed = false
      ∧ (transfer.replies index).cancelled = false ∧ (transfer.replies index).data = transfer.data)
    (hcounter : counter ≠ 0) (hgap : sequenceGap session.previous counter = .ok skipped) :
    Accounts ⟨counter, skipped, transfer.data⟩ ((machine setup).perform session transfer.call)
      ∧ ((machine setup).next session transfer.call).active = true
      ∧ ((machine setup).next session transfer.call).previous = some counter := by
  obtain ⟨ending, hending, hguarded⟩ := next_perform session transfer.replies
  have hsent : Sent transfer.data
      ((machine setup).perform session (.next, transfer.replies)).result.log := by
    intro entry hmem
    obtain ⟨index, hindex⟩ := mem_perform hmem
    rw [hindex]
    exact hreplies index
  obtain ⟨⟨hnone, frame, hframe, hsequence, hskipped, hshows⟩, hafter, hprevious⟩ :=
    hguarded.called.delivers hactive _ _ _ hsent hintact hcounter hgap
  refine ⟨⟨hnone, frame, ?_, hsequence, hskipped, hshows⟩, hafter.trans hactive, hprevious⟩
  change ((machine setup).perform session (.next, transfer.replies)).result.ending = _
  rw [hending, hframe]
  rfl

theorem streams_accounted {session : Video setup} {known : Bool} {previous : Nat}
    {transfers : List Transfer} (hactive : session.active = true)
    (hprevious : session.previous = if known then some previous else none)
    (hbound : previous < 65536) (hstreams : Streams setup.length previous transfers)
    (hcounters : ∀ frame ∈ expected known previous transfers, frame.counter ≠ 0) :
    List.Forall₂ Accounts (expected known previous transfers)
      ((machine setup).run session (transfers.map Transfer.call)) := by
  induction transfers generalizing session known previous with
  | nil => exact .nil
  | cons transfer rest ih =>
    obtain ⟨hdropped, hintact, hreplies, hrest⟩ := hstreams
    have hgap : sequenceGap session.previous (counterAfter previous transfer.dropped)
        = .ok (if known then transfer.dropped else 0) := by
      rw [hprevious]
      cases known with
      | true => exact sequenceGap_counterAfter hbound hdropped
      | false => rfl
    have hcounter := hcounters _ List.mem_cons_self
    obtain ⟨hfirst, hactive', hprevious'⟩ := accounts_first hactive hintact hreplies hcounter hgap
    refine .cons hfirst (ih hactive' hprevious' (Nat.mod_lt _ (by decide)) hrest ?_)
    exact fun frame hmem => hcounters frame (List.mem_cons_of_mem _ hmem)

theorem counter_ne_zero {frame : Expected} {session : Video setup} {transfer : Transfer}
    (h : Accounts frame ((machine setup).perform session transfer.call)) : frame.counter ≠ 0 := by
  obtain ⟨delivered, hdelivered, hsequence, -⟩ := h.delivered
  obtain ⟨ending, hending, hguarded⟩ := next_perform session transfer.replies
  change ((machine setup).perform session (.next, transfer.replies)).result.ending = _ at hdelivered
  rw [hending] at hdelivered
  cases ending with
  | error error => cases hdelivered
  | ok found =>
    injection hdelivered with hfound
    injection hfound with hfound
    subst hfound
    obtain ⟨reply, -, -, hcounter⟩ := hguarded.called.shows _ rfl
    rwa [hsequence] at hcounter

theorem counters_of_accounted {frames : List Expected} {session : Video setup}
    {transfers : List Transfer} (h : List.Forall₂ Accounts frames
      ((machine setup).run session (transfers.map Transfer.call))) :
    ∀ frame ∈ frames, frame.counter ≠ 0 := by
  induction transfers generalizing session frames with
  | nil =>
    cases h
    exact fun frame hmem => by cases hmem
  | cons transfer rest ih =>
    cases h with
    | cons hfirst hrest =>
      intro frame hmem
      rcases List.mem_cons.mp hmem with rfl | hlater
      · exact counter_ne_zero hfirst
      · exact ih hrest frame hlater

/-- The frames of a camera are delivered one by one, without a restart, with the number of dropped
frames, if and only if no counter shows zero; the rest holds whatever is transferred. -/
theorem frames_accounted_iff (defects : setup.Map) {previous : Nat} (hprevious : previous < 65536)
    {transfers : List Transfer} (hstreams : Streams setup.length previous transfers)
    (ops : List (Request × (Nat → Reply))) :
    (List.Forall₂ Accounts (expected false previous transfers)
        ((machine setup).run (started defects) (transfers.map Transfer.call))
      ∧ (∀ t ∈ (machine setup).run (started defects) ops, Safe t)
      ∧ (((machine setup).final (started defects) ops).active = false →
        Stops ((machine setup).emitted (·.log) (started defects) ops)))
    ↔ ∀ frame ∈ expected false previous transfers, frame.counter ≠ 0 := by
  constructor
  · exact fun h => counters_of_accounted h.1
  · intro hcounters
    refine ⟨streams_accounted rfl rfl hprevious hstreams hcounters, fun t hmem => ?_,
      stopped_of_inactive defects ops⟩
    have hinv : (machine setup).Inductive (started defects) fun _ => True :=
      ⟨trivial, fun _ _ => trivial⟩
    obtain ⟨-, -, hstep⟩ := hinv.mem_run hmem
    rw [hstep]
    exact perform_safe t.before t.op

end

/-! ## A lost frame -/

def smallSetup : Setup where
  width := 64
  height := 64
  x := 0
  y := 0
  wide := Nat.le_refl 64
  high := Nat.le_refl 64
  profile := DefectMap.profile662
  known := List.mem_cons_self
  color := true
  longExposure := false
  continuousDrain := false

def noDefects : smallSetup.Map :=
  ⟨⟨[], List.replicate (64 * 64) false, 64, 64, 2, 0xfff0⟩,
    ⟨by decide, by decide, List.length_replicate, fun _ hmem => (by cases hmem), by decide⟩, rfl, rfl⟩

def envelope (counter : Nat) (body : List UInt8) : List UInt8 :=
  [0x7e, 0x5a, .ofNat counter, .ofNat (counter / 256)] ++ body
    ++ [.ofNat counter, .ofNat (counter / 256), 0xf0, 0x3c]

theorem intact_envelope {counter : Nat} (h : counter < 65536) (body : List UInt8) :
    Intact (body.length + 8) counter (envelope counter body) := by
  have hlength : (envelope counter body).length = body.length + 8 := by
    simp [envelope]
  refine ⟨hlength, rfl, ?_, ?_, ?_⟩
  · rw [hlength]
    simp [envelope]
  · exact Raw16.ofBytes_ofNat h
  · rw [hlength]
    unfold u16At
    have hlow : (envelope counter body).getD (body.length + 8 - 4) 0 = .ofNat counter := by
      simp [envelope]
    have hhigh : (envelope counter body).getD (body.length + 8 - 4 + 1) 0
        = .ofNat (counter / 256) := by
      simp [envelope]
    rw [hlow, hhigh]
    exact Raw16.ofBytes_ofNat h

def blank (counter : Nat) : List UInt8 :=
  envelope counter (List.replicate (smallSetup.length - 8) 0)

theorem intact_blank {counter : Nat} (h : counter < 65536) :
    Intact smallSetup.length counter (blank counter) := by
  have hintact := intact_envelope h (List.replicate (smallSetup.length - 8) 0)
  rwa [List.length_replicate] at hintact

def transferred (counter dropped : Nat) : Transfer where
  dropped := dropped
  data := blank counter
  replies := fun _ => { data := blank counter }

theorem frames_accounted_iff_skip :
    (List.Forall₂ Accounts (expected false 6 [transferred 7 0, transferred 11 3])
        ((machine smallSetup).run (started noDefects)
          ([transferred 7 0, transferred 11 3].map Transfer.call))
      ∧ (∀ t ∈ (machine smallSetup).run (started noDefects) [], Safe t)
      ∧ (((machine smallSetup).final (started noDefects) []).active = false →
        Stops ((machine smallSetup).emitted (·.log) (started noDefects) [])))
    ↔ ∀ frame ∈ expected false 6 [transferred 7 0, transferred 11 3], frame.counter ≠ 0 := by
  have hstreams : Streams smallSetup.length 6 [transferred 7 0, transferred 11 3] :=
    ⟨by decide, intact_blank (by decide), fun _ => ⟨rfl, rfl, rfl⟩,
      by decide, intact_blank (by decide), fun _ => ⟨rfl, rfl, rfl⟩, trivial⟩
  exact frames_accounted_iff noDefects (by decide) hstreams []

/-- The frame after the counter 65535 is not delivered. -/
theorem wrapped_counter_restarts :
    Streams smallSetup.length 65534 [transferred 65535 0, transferred 0 0]
      ∧ ¬List.Forall₂ Accounts (expected false 65534 [transferred 65535 0, transferred 0 0])
        ((machine smallSetup).run (started noDefects)
          ([transferred 65535 0, transferred 0 0].map Transfer.call)) := by
  refine ⟨⟨by decide, intact_blank (by decide), fun _ => ⟨rfl, rfl, rfl⟩,
    by decide, intact_blank (by decide), fun _ => ⟨rfl, rfl, rfl⟩, trivial⟩, fun h => ?_⟩
  exact counters_of_accounted h _ (List.mem_cons_of_mem _ List.mem_cons_self) rfl

end Regain.Zwo.BayerVideo
