import Mathlib.Tactic.Common
import Regain.DeepSkyDad.Panel

/-!
# Runs of the flat panel
-/

namespace Regain.DeepSkyDad

open Lib

namespace Panel

open Exchange

/-! ## Commands -/

abbrev Log := List (String × Reply)

variable {panel panel' : Panel}

def Silent {α : Type} (panel : Panel) (log : Log) (ending : Except String α) (panel' : Panel) :
    Prop :=
  log = [] ∧ panel' = panel ∧ ∃ error, ending = .error error

/-- A command was sent, and its reply is a value or latches a fault. -/
inductive Asked {α : Type} (panel : Panel) (text : String) (means : String → α → Prop) :
    Log → Except String α → Panel → Prop
  | answered {reply : String} {value : α} (hmeans : means reply value) :
      Asked panel text means [(text, .ok reply)] (.ok value) panel
  | latched {reply : Reply} (error message : String)
      (hnot : ∀ text value, reply = .ok text → ¬ means text value) :
      Asked panel text means [(text, reply)] (.error error) (panel.latch message)

theorem command_asked (text : String) (hfault : panel.fault = none) :
    (command text).Meets panel (Asked panel text fun reply value => value = reply) := by
  simp only [command, meets_bind, meets_get, continues_ok, hfault, meets_send]
  intro reply
  cases reply with
  | ok reply => exact .answered rfl
  | error error => exact .latched error _ fun text value hsame => by cases hsame

theorem number_asked (text : String) (maximum : Nat) (hfault : panel.fault = none) :
    (number text maximum).Meets panel
      (Asked panel text fun reply value => parseNumber reply = some value ∧ value ≤ maximum) := by
  refine (command_asked text hfault).bind ?_
  rintro log ending panel' (@⟨reply, value, rfl⟩ | @⟨reply, error, message, hnot⟩)
  · simp only [continues_ok]
    split
    · rename_i found hfound
      obtain ⟨hparsed, hmaximum⟩ := Option.filter_eq_some_iff.mp hfound
      exact .answered ⟨hparsed, of_decide_eq_true hmaximum⟩
    · rename_i hnone
      refine .latched _ _ fun text found hsame hmeans => ?_
      cases hsame
      rw [Option.filter_eq_none_iff] at hnone
      exact hnone found hmeans.1 (decide_eq_true hmeans.2)
  · exact .latched error message fun text found hsame => absurd rfl (hnot text text hsame)

theorem ack_asked (text : String) (hfault : panel.fault = none) :
    (ack text).Meets panel (Asked panel text fun reply _ => reply = "OK") := by
  refine (command_asked text hfault).bind ?_
  rintro log ending panel' (@⟨reply, value, rfl⟩ | @⟨reply, error, message, hnot⟩)
  · simp only [continues_ok]
    split
    · rename_i hother
      refine .latched _ _ fun text found hsame hmeans => ?_
      cases hsame
      exact hother hmeans
    · rename_i hsame
      exact .answered (not_not.mp hsame)
  · exact .latched error message fun text found hsame => absurd rfl (hnot text text hsame)

theorem command_silent (text : String) (hfault : panel.fault.isSome = true) :
    (command text).Meets panel (Silent panel) := by
  obtain ⟨fault, hsome⟩ := Option.isSome_iff_exists.mp hfault
  simp only [command, meets_bind, meets_get, continues_ok, hsome]
  exact ⟨rfl, rfl, _, rfl⟩

theorem Silent.bind {α β : Type} {first : PanelExchange α} {next : α → PanelExchange β}
    (h : first.Meets panel (Silent panel)) : (first >>= next).Meets panel (Silent panel) := by
  refine Meets.bind h ?_
  rintro log ending panel' ⟨rfl, rfl, error, rfl⟩
  exact ⟨rfl, rfl, error, rfl⟩

theorem number_silent (text : String) (maximum : Nat) (hfault : panel.fault.isSome = true) :
    (number text maximum).Meets panel (Silent panel) :=
  Silent.bind (command_silent text hfault)

theorem ack_silent (text : String) (hfault : panel.fault.isSome = true) :
    (ack text).Meets panel (Silent panel) :=
  Silent.bind (command_silent text hfault)

theorem status_silent (now : Nat) (hfault : panel.fault.isSome = true) :
    (status now).Meets panel (Silent panel) :=
  Silent.bind (number_silent "GOPS" 3 hfault)

theorem serve_silent (request : Request) (hfault : panel.fault.isSome = true) :
    (serve request).Meets panel (Silent panel) := by
  cases request with
  | status now => exact Silent.bind (status_silent now hfault)
  | moveCover opens now since => exact Silent.bind (status_silent now hfault)
  | halt => exact Silent.bind (ack_silent "STOP" hfault)
  | lightOn brightness =>
    simp only [serve, lightOn]
    split
    · exact Silent.bind (ack_silent _ hfault)
    · exact ⟨rfl, rfl, _, rfl⟩
  | lightOff => exact Silent.bind (ack_silent "SLBR0" hfault)

def sent (log : Log) : List String :=
  log.map Prod.fst

/-! ## Readings -/

def Reads (log : Log) (text : String) (value : Nat) : Prop :=
  ∃ reply, (text, Except.ok reply) ∈ log ∧ parseNumber reply = some value

def SeenAt (log : Log) (target : CoverState) : Prop :=
  (target = .closed ∧ Reads log "GOPS" 0 ∧ Reads log "GPOS" 270)
    ∨ (target = .opened ∧ Reads log "GOPS" 1 ∧ Reads log "GPOS" 0)

def TimesOut (panel : Panel) (now : Nat) (log : Log) : Prop :=
  ∃ target since position, panel.motion = some (target, since) ∧ since + motionTimeout ≤ now
    ∧ position ≤ 270 ∧ Reads log "GOPS" 2 ∧ Reads log "GPOS" position

def Aimed (panel : Panel) : Prop :=
  ∀ target since, panel.motion = some (target, since) → target = .opened ∨ target = .closed

inductive Followed (panel : Panel) (cover : CoverState) (now : Nat) :
    Log → Except String Unit → Panel → Prop
  | idle (h : panel.motion = none) : Followed panel cover now [] (.ok ()) panel
  | pending {target : CoverState} {since : Nat} (h : panel.motion = some (target, since))
      (hcover : cover = .moving) (hnow : now < since + motionTimeout) :
      Followed panel cover now [] (.ok ()) panel
  | arrived {since : Nat} (h : panel.motion = some (cover, since)) :
      Followed panel cover now [] (.ok ()) { panel with motion := none }
  | failed (error message : String) (hcover : cover ≠ .moving) :
      Followed panel cover now [] (.error error) (panel.latch message)
  | stopped {target : CoverState} {since : Nat} (h : panel.motion = some (target, since))
      (hcover : cover = .moving) (hnow : since + motionTimeout ≤ now) (reply : Reply)
      (error message : String) :
      Followed panel cover now [("STOP", reply)] (.error error) (panel.latch message)

theorem follow_followed (cover : CoverState) (now : Nat) (hfault : panel.fault = none) :
    (follow cover now).Meets panel (Followed panel cover now) := by
  simp only [follow, meets_bind, meets_get, continues_ok]
  cases hmotion : panel.motion with
  | none => exact .idle hmotion
  | some motion =>
    obtain ⟨target, since⟩ := motion
    dsimp only
    by_cases htarget : cover = target
    · rw [if_pos htarget]
      subst htarget
      exact .arrived hmotion
    · rw [if_neg htarget]
      by_cases hmoving : cover = .moving
      · by_cases hnow : since + motionTimeout ≤ now
        · rw [if_pos (.inr hnow), if_pos hmoving]
          refine (ack_asked "STOP" hfault).bind ?_
          rintro log ending panel' (@⟨reply, value, _⟩ | @⟨reply, error, message, _⟩)
          · exact .stopped hmotion hmoving hnow _ _ _
          · exact .stopped hmotion hmoving hnow reply error message
        · rw [if_neg (by simp [hmoving]; omega)]
          exact .pending hmotion hmoving (by omega)
      · rw [if_pos (.inl hmoving), if_neg hmoving]
        exact .failed _ _ hmoving

theorem coverOf_moving {report position : Nat} :
    coverOf report position = .moving ↔ report = 2 := by
  unfold coverOf
  split <;> simp_all

theorem coverOf_endpoint {report position : Nat} {target : CoverState}
    (haimed : target = .opened ∨ target = .closed) (h : coverOf report position = target) :
    (target = .closed ∧ report = 0 ∧ position = 270)
      ∨ (target = .opened ∧ report = 1 ∧ position = 0) := by
  unfold coverOf at h
  split at h
  · exact .inl ⟨h.symm, rfl, rfl⟩
  · exact .inr ⟨h.symm, rfl, rfl⟩
  · rcases haimed with rfl | rfl <;> cases h
  · rcases haimed with rfl | rfl <;> cases h

section

variable {report place : String} {code position : Nat} {rest : Log}

theorem reads_gops {entry : Reply} (hrest : "GOPS" ∉ sent rest) {value : Nat} :
    Reads (("GOPS", .ok report) :: ("GPOS", entry) :: rest) "GOPS" value
      ↔ parseNumber report = some value := by
  have hnot : ∀ reply : Reply, ("GOPS", reply) ∉ rest :=
    fun reply hmem => hrest (List.mem_map_of_mem hmem)
  unfold Reads
  simp [hnot]

theorem reads_gpos {entry : Reply} (hrest : "GPOS" ∉ sent rest) {value : Nat} :
    Reads (("GOPS", entry) :: ("GPOS", .ok place) :: rest) "GPOS" value
      ↔ parseNumber place = some value := by
  have hnot : ∀ reply : Reply, ("GPOS", reply) ∉ rest :=
    fun reply hmem => hrest (List.mem_map_of_mem hmem)
  unfold Reads
  simp [hnot]

theorem timesOut_iff (panel : Panel) (now : Nat) (rest : Log)
    (hreport : parseNumber report = some code)
    (hplace : parseNumber place = some position ∧ position ≤ 270) (hgops : "GOPS" ∉ sent rest)
    (hgpos : "GPOS" ∉ sent rest) :
    TimesOut panel now (("GOPS", .ok report) :: ("GPOS", .ok place) :: rest)
      ↔ coverOf code position = .moving
        ∧ ∃ target since, panel.motion = some (target, since) ∧ since + motionTimeout ≤ now := by
  unfold TimesOut
  simp only [reads_gops hgops, reads_gpos hgpos, hreport, hplace.1, coverOf_moving,
    Option.some.injEq]
  constructor
  · rintro ⟨target, since, position, hmotion, hnow, hposition, hcode, _⟩
    exact ⟨hcode, target, since, hmotion, hnow⟩
  · rintro ⟨hcode, target, since, hmotion, hnow⟩
    exact ⟨target, since, position, hmotion, hnow, hplace.2, hcode, rfl⟩

theorem seenAt_cover {target : CoverState} (haimed : target = .opened ∨ target = .closed)
    (hreport : parseNumber report = some code) (hplace : parseNumber place = some position)
    (hgops : "GOPS" ∉ sent rest) (hgpos : "GPOS" ∉ sent rest)
    (hcover : coverOf code position = target) :
    SeenAt (("GOPS", .ok report) :: ("GPOS", .ok place) :: rest) target := by
  unfold SeenAt
  simp only [reads_gops hgops, reads_gpos hgpos, hreport, hplace, Option.some.injEq]
  rcases coverOf_endpoint haimed hcover with ⟨htarget, hcode, hposition⟩ | ⟨htarget, hcode, hposition⟩
  · exact .inl ⟨htarget, hcode, hposition⟩
  · exact .inr ⟨htarget, hcode, hposition⟩

end

structure StatusRead (panel : Panel) (now : Nat) (log : Log) (ending : Except String Status)
    (panel' : Panel) : Prop where
  first : ∃ reply rest, log = ("GOPS", reply) :: rest
  noMove : "SMOV" ∉ sent log
  motion : panel'.motion = panel.motion
    ∨ ∃ target since, panel.motion = some (target, since) ∧ panel'.motion = none
      ∧ SeenAt log target
  timeout : TimesOut panel now log →
    (sent log).count "STOP" = 1 ∧ panel'.fault.isSome = true
  stop : "STOP" ∈ sent log → TimesOut panel now log
  ok : ∀ found, ending = .ok found → panel'.fault = none
    ∧ (found.cover = .moving ∨ panel'.motion = none)
    ∧ ∃ reply rest report, log = ("GOPS", .ok reply) :: rest ∧ parseNumber reply = some report
      ∧ report ≤ 3 ∧ (report = 2 → found.cover = .moving) ∧ (report = 3 → panel.motion = none)

inductive Lit (panel : Panel) (report position : Nat) :
    Log → Except String Status → Panel → Prop
  | found {light bright : Reply} {status : Status} (hcover : status.cover = coverOf report position) :
      Lit panel report position [("GLON", light), ("GLBR", bright)] (.ok status) panel
  | latched {log : Log} (hlog : sent log = ["GLON"] ∨ sent log = ["GLON", "GLBR"])
      (error message : String) :
      Lit panel report position log (.error error) (panel.latch message)

theorem readLight_lit (report position : Nat) (hfault : panel.fault = none) :
    (readLight report position).Meets panel (Lit panel report position) := by
  refine (number_asked "GLON" 1 hfault).bind ?_
  rintro log ending panel' (@⟨light, value, _⟩ | @⟨reply, error, message, _⟩)
  · refine (number_asked "GLBR" maxBrightness hfault).bind ?_
    rintro log ending panel' (@⟨bright, value, _⟩ | @⟨reply, error, message, _⟩)
    · exact .found rfl
    · exact .latched (.inr rfl) error message
  · exact .latched (.inl rfl) error message

section

variable {report place : String} {code position now : Nat} {log : Log}
  {ending : Except String Status}

theorem Lit.sent (h : Lit panel code position log ending panel') :
    sent log = ["GLON"] ∨ sent log = ["GLON", "GLBR"] := by
  cases h with
  | found => exact .inr rfl
  | latched hlog => exact hlog

theorem Lit.motion (h : Lit panel code position log ending panel') :
    panel'.motion = panel.motion := by
  cases h <;> rfl

theorem Lit.ok (h : Lit panel code position log ending panel') {found : Status}
    (hending : ending = .ok found) : panel' = panel ∧ found.cover = coverOf code position := by
  cases h with
  | found hcover =>
    cases hending
    exact ⟨rfl, hcover⟩
  | latched => cases hending

theorem statusRead_lit {mid : Panel} (hlit : Lit mid code position log ending panel')
    (hreport : parseNumber report = some code ∧ code ≤ 3)
    (hplace : parseNumber place = some position ∧ position ≤ 270) (hfault : mid.fault = none)
    (htime : coverOf code position = .moving → ∀ target since,
      panel.motion = some (target, since) → now < since + motionTimeout)
    (hmotion : mid.motion = panel.motion ∨ mid.motion = none ∧ ∃ target since,
      panel.motion = some (target, since) ∧ (target = .opened ∨ target = .closed)
        ∧ coverOf code position = target)
    (hstill : coverOf code position = .moving ∨ mid.motion = none) :
    StatusRead panel now (("GOPS", .ok report) :: ("GPOS", .ok place) :: log) ending panel' := by
  have hsent : "GOPS" ∉ Panel.sent log ∧ "GPOS" ∉ Panel.sent log ∧ "SMOV" ∉ Panel.sent log
      ∧ "STOP" ∉ Panel.sent log := by
    rcases hlit.sent with hlog | hlog <;> rw [hlog] <;> decide
  have htimes : ¬ TimesOut panel now (("GOPS", .ok report) :: ("GPOS", .ok place) :: log) := by
    rw [timesOut_iff panel now log hreport.1 hplace hsent.1 hsent.2.1]
    rintro ⟨hmoving, target, since, hpending, hnow⟩
    have hlt := htime hmoving target since hpending
    omega
  refine ⟨⟨_, _, rfl⟩, ?_, ?_, fun hout => absurd hout htimes, ?_, ?_⟩
  · simpa [Panel.sent] using hsent.2.2.1
  · rw [hlit.motion]
    rcases hmotion with hsame | ⟨hnone, target, since, hpending, haimed, hcover⟩
    · exact .inl hsame
    · exact .inr ⟨target, since, hpending, hnone,
        seenAt_cover haimed hreport.1 hplace.1 hsent.1 hsent.2.1 hcover⟩
  · intro hstop
    exact absurd (by simpa [Panel.sent] using hstop) hsent.2.2.2
  · intro found hending
    obtain ⟨rfl, hcover⟩ := hlit.ok hending
    rw [hcover]
    refine ⟨hfault, hstill, report, _, code, rfl, hreport.1, hreport.2, coverOf_moving.mpr, ?_⟩
    intro hunknown
    have hnone : panel'.motion = none :=
      hstill.resolve_left fun hmoving => by
        have htwo := coverOf_moving.mp hmoving
        omega
    rcases hmotion with hsame | ⟨_, target, since, _, haimed, hends⟩
    · rw [← hsame, hnone]
    · rcases coverOf_endpoint haimed hends with ⟨_, hcode, _⟩ | ⟨_, hcode, _⟩ <;> omega

theorem status_read (now : Nat) (hfault : panel.fault = none) (haimed : Aimed panel) :
    (status now).Meets panel (StatusRead panel now) := by
  refine (number_asked "GOPS" 3 hfault).bind ?_
  rintro log ending panel' (@⟨report, code, hreport⟩ | @⟨reply, error, message, hnot⟩)
  · refine (number_asked "GPOS" 270 hfault).bind ?_
    rintro log ending panel' (@⟨place, position, hplace⟩ | @⟨reply, error, message, hnot⟩)
    · refine (follow_followed (coverOf code position) now hfault).bind ?_
      rintro log ending panel' (hidle | ⟨hmotion, hcover, hnow⟩ | hmotion | ⟨error, message, hcover⟩
        | ⟨hmotion, hcover, hnow, reply, error, message⟩)
      · refine (readLight_lit code position hfault).mono fun log ending panel' hlit => ?_
        refine statusRead_lit hlit hreport hplace hfault ?_ (.inl rfl) (.inr hidle)
        intro _ target since hpending
        rw [hidle] at hpending
        cases hpending
      · refine (readLight_lit code position hfault).mono fun log ending panel' hlit => ?_
        refine statusRead_lit hlit hreport hplace hfault ?_ (.inl rfl) (.inl hcover)
        intro _ target since hpending
        rw [hmotion] at hpending
        cases hpending
        exact hnow
      · have hends := haimed _ _ hmotion
        have hleft : Panel.fault { panel with motion := none } = none := hfault
        have hlight := readLight_lit code position hleft
        refine hlight.mono fun log ending panel' hlit => ?_
        refine statusRead_lit hlit hreport hplace hfault ?_
          (.inr ⟨rfl, _, _, hmotion, hends, rfl⟩) (.inr rfl)
        intro hmoving
        rw [hmoving] at hends
        simp at hends
      · have htimes := timesOut_iff panel now [] hreport.1 hplace
          (by simp [sent]) (by simp [sent])
        constructor <;> simp_all [sent, latch]
      · have htimes := timesOut_iff panel now [("STOP", reply)] hreport.1 hplace
          (by simp [sent]) (by simp [sent])
        constructor <;> simp_all [sent, latch]
    · constructor <;> simp_all [sent, TimesOut, Reads, latch]
      grind
  · constructor <;> simp_all [sent, TimesOut, Reads, latch]

end

/-- The reading of the clock that a request compares with the time of a motion. -/
def Request.clock : Request → Option Nat
  | .status now => some now
  | .moveCover _ now _ => some now
  | _ => none

/-! ## Requests -/

structure Served (panel : Panel) (request : Request) (log : Log) (panel' : Panel) : Prop where
  once : (sent log).count "SMOV" ≤ 1
  proven : "SMOV" ∈ sent log → (∃ opens now since, request = .moveCover opens now since)
    ∧ ∃ reply rest report, log = ("GOPS", .ok reply) :: rest ∧ parseNumber reply = some report
      ∧ report ≤ 3 ∧ report ≠ 2 ∧ (report = 3 → panel.motion = none)
  cleared : ∀ target since, panel.motion = some (target, since) → panel'.motion ≠ panel.motion →
    SeenAt log target ∨ ("STOP", .ok "OK") ∈ log
  timeout : ∀ now, request.clock = some now → TimesOut panel now log →
    (sent log).count "STOP" = 1 ∧ panel'.fault.isSome = true
  aimed : Aimed panel → Aimed panel'

section

variable {log rest : Log} {now : Nat}

theorem reads_append {text : String} (hnot : text ∉ sent rest) {value : Nat} :
    Reads (log ++ rest) text value ↔ Reads log text value := by
  have hrest : ∀ reply : Reply, (text, reply) ∉ rest :=
    fun reply hmem => hnot (List.mem_map_of_mem hmem)
  unfold Reads
  simp [hrest]

theorem seenAt_append (hgops : "GOPS" ∉ sent rest) (hgpos : "GPOS" ∉ sent rest)
    {target : CoverState} : SeenAt (log ++ rest) target ↔ SeenAt log target := by
  simp only [SeenAt, reads_append hgops, reads_append hgpos]

theorem timesOut_append (hgops : "GOPS" ∉ sent rest) (hgpos : "GPOS" ∉ sent rest) :
    TimesOut panel now (log ++ rest) ↔ TimesOut panel now log := by
  simp only [TimesOut, reads_append hgops, reads_append hgpos]

theorem StatusRead.aimed {ending : Except String Status}
    (h : StatusRead panel now log ending panel') (haimed : Aimed panel) : Aimed panel' := by
  intro target since hpending
  rcases h.motion with hsame | ⟨_, _, _, hnone, _⟩
  · exact haimed target since (hsame ▸ hpending)
  · rw [hnone] at hpending
    cases hpending

theorem StatusRead.served {ending : Except String Status} {request : Request}
    (h : StatusRead panel now log ending panel') (hclock : request.clock = some now) :
    Served panel request log panel' where
  once := by
    rw [List.count_eq_zero.mpr h.noMove]
    omega
  proven hmove := absurd hmove h.noMove
  cleared target since hpending hchanged := by
    rcases h.motion with hsame | ⟨target', since', hpending', _, hseen⟩
    · exact absurd hsame hchanged
    · rw [hpending] at hpending'
      cases hpending'
      exact .inl hseen
  timeout now' hnow hout := by
    rw [hclock] at hnow
    cases hnow
    exact h.timeout hout
  aimed := h.aimed

theorem StatusRead.moved {found : Status} {mid : Panel} {opens : Bool} {since : Nat}
    (h : StatusRead panel now log (.ok found) mid) (hcover : found.cover ≠ .moving)
    (hgops : "GOPS" ∉ sent rest) (hgpos : "GPOS" ∉ sent rest)
    (hmove : (sent rest).count "SMOV" ≤ 1) (haimed : Aimed panel → Aimed panel') :
    Served panel (.moveCover opens now since) (log ++ rest) panel' := by
  obtain ⟨hfault, hstill, reply, tail, report, hlog, hreport, hle, htwo, hthree⟩ := h.ok found rfl
  have hnone : mid.motion = none := hstill.resolve_left hcover
  refine ⟨?_, ?_, ?_, ?_, haimed⟩
  · have hsplit : sent (log ++ rest) = sent log ++ sent rest := List.map_append
    rw [hsplit, List.count_append, List.count_eq_zero.mpr h.noMove, Nat.zero_add]
    exact hmove
  · intro _
    refine ⟨⟨opens, now, since, rfl⟩, reply, tail ++ rest, report, by simp [hlog], hreport, hle, ?_,
      hthree⟩
    intro hmoving
    exact hcover (htwo hmoving)
  · intro target began hpending _
    rw [seenAt_append hgops hgpos]
    rcases h.motion with hsame | ⟨target', since', hpending', _, hseen⟩
    · rw [hnone, hpending] at hsame
      cases hsame
    · rw [hpending] at hpending'
      cases hpending'
      exact .inl hseen
  · intro now' hnow hout
    cases hnow
    have hlatched := (h.timeout ((timesOut_append hgops hgpos).mp hout)).2
    rw [hfault] at hlatched
    cases hlatched

theorem moveCover_served (opens : Bool) (now since : Nat) (hfault : panel.fault = none)
    (haimed : Aimed panel) : (moveCover opens now since).Meets panel
      fun log _ panel' => Served panel (.moveCover opens now since) log panel' := by
  refine (status_read now hfault haimed).bind ?_
  rintro log (error | found) mid hstatus
  · exact hstatus.served rfl
  · have hmid : mid.fault = none := (hstatus.ok found rfl).1
    have haimed' : Aimed mid := hstatus.aimed haimed
    rw [continues_ok]
    by_cases hmoving : found.cover = .moving
    · rw [if_pos hmoving]
      simpa using hstatus.served rfl
    · rw [if_neg hmoving]
      by_cases htarget : found.cover = if opens then CoverState.opened else .closed
      · rw [if_pos htarget]
        exact hstatus.moved hmoving (by simp [sent]) (by simp [sent]) (by simp [sent])
          fun _ => haimed'
      · rw [if_neg htarget]
        have haim : aim opens ≠ "GOPS" ∧ aim opens ≠ "GPOS" ∧ aim opens ≠ "SMOV" := by
          cases opens <;> decide
        refine (ack_asked (aim opens) hmid).bind ?_
        rintro rest ending panel' (@⟨reply, value, _⟩ | @⟨reply, error, message, _⟩)
        · rw [continues_ok]
          refine (ack_asked "SMOV" hmid).bind ?_
          rintro rest ending panel' (@⟨reply, value, _⟩ | @⟨reply, error, message, _⟩)
          · refine hstatus.moved hmoving ?_ ?_ ?_ fun _ target began hpending => ?_
            · simp [sent, haim.1.symm]
            · simp [sent, haim.2.1.symm]
            · simp [sent, haim.2.2]
            · cases hpending
              cases opens
              · exact .inr rfl
              · exact .inl rfl
          · refine hstatus.moved hmoving ?_ ?_ ?_ fun _ => haimed'
            · simp [sent, haim.1.symm]
            · simp [sent, haim.2.1.symm]
            · simp [sent, haim.2.2]
        · refine hstatus.moved hmoving ?_ ?_ ?_ fun _ => haimed'
          · simp [sent, haim.1.symm]
          · simp [sent, haim.2.1.symm]
          · simp [sent, haim.2.2]

theorem served_other {request : Request} (hclock : request.clock = none) (hmove : "SMOV" ∉ sent log)
    (hmotion : panel'.motion = panel.motion
      ∨ panel'.motion = none ∧ ("STOP", Except.ok "OK") ∈ log) :
    Served panel request log panel' where
  once := by
    rw [List.count_eq_zero.mpr hmove]
    omega
  proven hsent := absurd hsent hmove
  cleared target since hpending hchanged :=
    .inr (hmotion.resolve_left hchanged).2
  timeout now hnow := by
    rw [hclock] at hnow
    cases hnow
  aimed haimed target since hpending := by
    rcases hmotion with hsame | ⟨hnone, _⟩
    · exact haimed target since (hsame ▸ hpending)
    · rw [hnone] at hpending
      cases hpending

theorem acked_served {request : Request} {first second : String} {change : Panel → Panel}
    (hclock : request.clock = none) (hfirst : first ≠ "SMOV") (hsecond : second ≠ "SMOV")
    (hchange : ∀ panel, (change panel).motion = panel.motion) (hfault : panel.fault = none) :
    (do ack first; ack second; Exchange.modify change : PanelExchange Unit).Meets panel
      fun log _ panel' => Served panel request log panel' := by
  refine (ack_asked first hfault).bind ?_
  rintro log ending mid (@⟨reply, value, _⟩ | @⟨reply, error, message, _⟩)
  · rw [continues_ok]
    refine (ack_asked second hfault).bind ?_
    rintro log ending mid (@⟨reply, value, _⟩ | @⟨reply, error, message, _⟩)
    · exact served_other hclock (by simp [sent, hfirst.symm, hsecond.symm])
        (.inl (hchange panel))
    · exact served_other hclock (by simp [sent, hfirst.symm, hsecond.symm]) (.inl rfl)
  · exact served_other hclock (by simp [sent, hfirst.symm]) (.inl rfl)

theorem serve_served (request : Request) (hfault : panel.fault = none) (haimed : Aimed panel) :
    (serve request).Meets panel fun log _ panel' => Served panel request log panel' := by
  cases request with
  | status now =>
    refine (status_read now hfault haimed).bind ?_
    rintro log (error | found) panel' hstatus
    · exact hstatus.served rfl
    · rw [continues_ok, meets_pure, List.append_nil]
      exact hstatus.served rfl
  | moveCover opens now since => exact moveCover_served opens now since hfault haimed
  | halt =>
    refine (ack_asked "STOP" hfault).bind ?_
    rintro log ending panel' (@⟨reply, value, hreply⟩ | @⟨reply, error, message, _⟩)
    · subst hreply
      exact served_other rfl (by simp [sent]) (.inr ⟨rfl, by simp⟩)
    · exact served_other rfl (by simp [sent]) (.inl rfl)
  | lightOn brightness =>
    simp only [serve, lightOn]
    split
    · refine acked_served rfl ?_ (by decide) (fun panel => rfl) hfault
      intro hsame
      have hchars := congrArg String.toList hsame
      simp at hchars
    · exact served_other rfl (by simp [sent]) (.inl rfl)
  | lightOff => exact acked_served rfl (by decide) (by decide) (fun panel => rfl) hfault

end

/-! ## Runs -/

abbrev Step := Transition Panel (Request × (Nat → Reply)) (Answered String Reply String Unit)

/-- The move of a panel with neither a fault nor a pending motion is not answered by an unknown
report. -/
def Reported (t : Step) : Prop :=
  ∀ opens now since, t.op.1 = .moveCover opens now since → t.before.fault = none →
    t.before.motion = none → ∀ reply, t.op.2 0 = .ok reply → parseNumber reply ≠ some 3

structure Safe (t : Step) : Prop where
  once : (sent t.result.log).count "SMOV" ≤ 1
  /-- A report of 0 or 1 proves that the cover is at rest. -/
  proven : "SMOV" ∈ sent t.result.log → (∃ opens now since, t.op.1 = .moveCover opens now since)
    ∧ ∃ reply rest report, t.result.log = ("GOPS", .ok reply) :: rest
      ∧ parseNumber reply = some report ∧ coverMovingOf report = some false
  cleared : ∀ target since, t.before.motion = some (target, since) →
    t.after.motion ≠ t.before.motion →
    SeenAt t.result.log target ∨ ("STOP", .ok "OK") ∈ t.result.log
      ∨ t.before.fault = none ∧ t.after.fault.isSome = true
  timeout : ∀ now, t.op.1.clock = some now → TimesOut t.before now t.result.log →
    (sent t.result.log).count "STOP" = 1 ∧ t.after.fault.isSome = true
  silent : t.before.fault.isSome = true → t.result.log = [] ∧ t.after = t.before

theorem aimed_inductive : machine.Inductive {} Aimed := by
  have hinitial : Aimed {} := fun target since hpending => by cases hpending
  refine ⟨hinitial, ?_⟩
  rintro panel ⟨request, replies⟩ haimed
  by_cases hfault : panel.fault = none
  · exact ((serve_served request hfault haimed).perform replies).aimed haimed
  · obtain ⟨_, hsame, _⟩ :=
      (serve_silent request (Option.isSome_iff_ne_none.mpr hfault)).perform replies
    have hsame' : machine.next panel (request, replies) = panel := hsame
    rw [hsame']
    exact haimed

theorem perform_safe (op : Request × (Nat → Reply)) (haimed : Aimed panel)
    (hreported : Reported (machine.perform panel op)) : Safe (machine.perform panel op) := by
  obtain ⟨request, replies⟩ := op
  by_cases hfault : panel.fault = none
  · have hserved := (serve_served request hfault haimed).perform replies
    refine ⟨hserved.once, ?_, ?_, hserved.timeout, ?_⟩
    · intro hmove
      obtain ⟨⟨opens, now, since, hrequest⟩, reply, rest, report, hlog, hreport, hle, htwo, hthree⟩ :=
        hserved.proven hmove
      refine ⟨⟨opens, now, since, hrequest⟩, reply, rest, report, hlog, hreport, ?_⟩
      have hfirst : .ok reply = replies 0 := perform_cons hlog
      have hknown : report ≠ 3 := fun hunknown =>
        hreported opens now since hrequest hfault (hthree hunknown) reply hfirst.symm
          (hunknown ▸ hreport)
      have hrest : report = 0 ∨ report = 1 := by omega
      rcases hrest with rfl | rfl <;> rfl
    · intro target since hpending hchanged
      rcases hserved.cleared target since hpending hchanged with hseen | hstop
      · exact .inl hseen
      · exact .inr (.inl hstop)
    · intro hfaulted
      have hhealthy : (machine.perform panel (request, replies)).before.fault = none := hfault
      rw [hhealthy] at hfaulted
      cases hfaulted
  · have hfaulted : panel.fault.isSome = true := Option.isSome_iff_ne_none.mpr hfault
    obtain ⟨hlog, hsame, _⟩ := (serve_silent request hfaulted).perform replies
    have hlog' : (machine.perform panel (request, replies)).result.log = [] := hlog
    have hsame' : (machine.perform panel (request, replies)).after = panel := hsame
    refine ⟨by simp [hlog', sent], by simp [hlog', sent], ?_, ?_, fun _ => ⟨hlog', hsame'⟩⟩
    · intro target since _ hchanged
      exact absurd (congrArg Panel.motion hsame') hchanged
    · rintro now _ ⟨target, since, position, _, _, _, ⟨reply, hmem, _⟩, _⟩
      rw [hlog'] at hmem
      cases hmem

/-- Runs whose moves are answered by a known report. -/
theorem cover_moves_safe (ops : List (Request × (Nat → Reply)))
    (hreported : ∀ t ∈ machine.run {} ops, Reported t) : ∀ t ∈ machine.run {} ops, Safe t := by
  intro t hmem
  obtain ⟨haimed, _, hstep⟩ := aimed_inductive.mem_run hmem
  have hthis := hreported t hmem
  rw [hstep] at hthis ⊢
  exact perform_safe t.op haimed hthis

private def reports (report position : String) : Nat → Reply
  | 0 => .ok report
  | 1 => .ok position
  | 2 => .ok "0"
  | 3 => .ok "0"
  | _ => .ok "OK"

private def stuckReplies : Nat → Reply
  | 0 => .ok "2"
  | 1 => .ok "100"
  | _ => .ok "OK"

/-- The cover opens, and is stuck half way when it is to close. -/
def sessionOps : List (Request × (Nat → Reply)) :=
  [(.moveCover true 0 10, reports "0" "270"), (.status 5000, reports "2" "100"),
    (.status 20000, reports "1" "0"), (.moveCover false 30000 30010, reports "1" "0"),
    (.status 60000, reports "2" "100"), (.status 160000, stuckReplies), (.lightOff, stuckReplies)]

theorem cover_moves_safe_session : ((machine.run {} sessionOps).map fun t =>
        (sent t.result.log).filter (· ∈ ["SMOV", "STOP"]))
      = [["SMOV"], [], [], ["SMOV"], [], ["STOP"], []]
      ∧ (machine.final {} sessionOps).fault.isSome = true
      ∧ ∀ t ∈ machine.run {} sessionOps, Safe t := by
  have hknown : ∀ t ∈ machine.run {} sessionOps,
      (t.op.2 0).toOption.bind parseNumber ≠ some 3 := by
    decide
  refine ⟨by decide, by decide, cover_moves_safe sessionOps ?_⟩
  intro t hmem opens now since _ _ _ reply hreply hthree
  have hthis := hknown t hmem
  rw [hreply] at hthis
  exact hthis hthree

private def unknownReplies : Nat → Reply
  | 0 => .ok "3"
  | 1 => .ok "100"
  | 4 => .ok "OK"
  | 5 => .ok "OK"
  | _ => .ok "0"

/-- A cover of which nothing is known is moved. -/
theorem cover_moved_unproven : ¬ ∀ ops, ∀ t ∈ machine.run {} ops, Safe t := by
  intro hall
  have hsafe := hall [(.moveCover true 0 10, unknownReplies)] _ List.mem_cons_self
  have hsent : "SMOV"
      ∈ sent (machine.perform {} (.moveCover true 0 10, unknownReplies)).result.log := by
    decide
  obtain ⟨_, reply, rest, report, hlog, hreport, hrest⟩ := hsafe.proven hsent
  have hfirst : Except.ok reply = unknownReplies 0 := perform_cons hlog
  cases hfirst
  have hthree : parseNumber "3" = some 3 := by decide
  rw [hthree] at hreport
  cases hreport
  cases hrest

end Panel

end Regain.DeepSkyDad
