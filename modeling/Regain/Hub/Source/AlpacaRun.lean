import Regain.Hub.Source.Alpaca
import Regain.Lib.Monitor

/-!
# Who owns an Alpaca connection

The ledger is what an observer of the requests and replies knows: the last `Connected`, the opening
that was acknowledged, whether a connection write was lost, whether there is evidence of a
connection, whether the deadline was found over and whether a Disconnect is still awaited.
-/

namespace Regain.Hub

open Lib
open Routine (continues_done meets_act meets_attempt meets_bind meets_ensure meets_fail meets_get meets_modify meets_ret)

namespace Alpaca

/-! ## The observer -/

structure Ledger where
  /-- The policy is `ExternallyManaged`. -/
  external : Bool
  /-- The last `Connected` that was read. -/
  connected : Option Bool
  /-- The last acknowledged opening, until a Disconnect is sent for it. -/
  opening : Option ConnectionMethod
  lost : Bool
  /-- Connected was read as true or a legacy opening was acknowledged, since the last reset or
  disconnect. -/
  evidence : Bool
  expired : Bool
  /-- An asynchronous Disconnect was acknowledged and `Connecting` was not read as false since. -/
  closing : Bool

namespace Ledger

def new (policy : ConnectionPolicy) : Ledger where
  external := policy = .externallyManaged
  connected := none
  opening := none
  lost := false
  evidence := false
  expired := false
  closing := false

def observe (ledger : Ledger) : Event → Ledger
  | .sent (.write ⟨_, false⟩) => { ledger with opening := none }
  | .sent _ => ledger
  | .read .connected value =>
    { ledger with connected := some value, evidence := ledger.evidence || value }
  | .read .connecting value => { ledger with closing := ledger.closing && value }
  | .read .interfaceVersion _ => ledger
  | .written ⟨method, true⟩ (.ok _) =>
    { ledger with opening := some method, evidence := ledger.evidence || method == .legacy }
  | .written ⟨method, false⟩ (.ok _) => { ledger with closing := method == .async }
  | .written _ (.error error) => { ledger with lost := ledger.lost || error.leavesWriteOpen }
  | .abandoned _ => { ledger with lost := true }
  | .expired => { ledger with expired := true, closing := false }
  | .stepped _ => ledger
  | .disconnecting => { ledger with evidence := false, expired := false }
  | .reset => { ledger with evidence := false }

def Allows (ledger : Ledger) : Event → Prop
  | .sent (.write ⟨method, true⟩) =>
    ledger.external = false ∧ ledger.lost = false ∧ ledger.expired = false
      ∧ ledger.closing = false ∧ (method = .legacy → ledger.connected ≠ some true)
  | .sent (.write ⟨method, false⟩) =>
    ledger.external = false ∧ ledger.lost = false ∧ ledger.opening = some method
  | .sent _ => ledger.expired = false
  | .stepped (.ok true) => ledger.evidence = true ∧ ledger.lost = false
  | _ => True

def monitor : Monitor Ledger Event where
  observe := observe
  Allows := Allows

end Ledger

/-! ## The invariant -/

structure Linked (backend : Backend) (ledger : Ledger) : Prop where
  policy : ledger.external = decide (backend.policy = .externallyManaged)
  lost : ledger.lost = true → backend.connectionUncertain = true
  opened : ∀ method, backend.openedConnection = some method →
    ledger.external = false ∧ (backend.connectionUncertain = false → ledger.opening = some method)
  opening : backend.connectionPhase = .open_ →
    ledger.external = false ∧ (backend.connectionMethod = some .legacy → ledger.connected ≠ some true)
  ready : backend.connectionPhase = .ready → backend.connectionUncertain = false →
    ledger.evidence = true
  expired : ledger.expired = true → backend.connectionPhase = .failed
  closing : ledger.closing = true → backend.connectionPhase = .waitClose

def World.ledger (world : World) (start : Ledger) : Ledger :=
  Ledger.monitor.view start world.events

structure Sound (start : Ledger) (world : World) : Prop where
  kept : Ledger.monitor.Kept start world.events
  linked : Linked world.backend (world.ledger start)

variable {start : Ledger} {world : World} {normalizeId : String → String}
  {parse : List UInt8 → Option Envelope}

theorem ledger_log (start : Ledger) (world : World) (event : Event) :
    (world.log event).ledger start = (world.ledger start).observe event := by
  simp [World.ledger, World.log, Ledger.monitor]

theorem Sound.log (h : Sound start world) (event : Event)
    (hallows : (world.ledger start).Allows event)
    (hlinked : Linked world.backend ((world.ledger start).observe event)) :
    Sound start (world.log event) where
  kept := by
    change Ledger.monitor.Kept start (world.events ++ [event])
    rw [Monitor.kept_append]
    exact ⟨h.kept, hallows, trivial⟩
  linked := by
    rw [ledger_log start world event]
    exact hlinked

variable {ledger : Ledger} {backend : Backend} {source : Source}

theorem Sound.set (h : Sound start world) (hlinked : Linked backend (world.ledger start)) :
    Sound start (world.set backend) where
  kept := h.kept
  linked := hlinked

theorem Linked.transaction (h : Linked backend ledger) (transaction : Nat) :
    Linked { backend with transaction := transaction } ledger :=
  { h with }

def SameBackend (before after : Backend) : Prop :=
  ∃ transaction, after = { before with transaction := transaction }

theorem SameBackend.refl (backend : Backend) : SameBackend backend backend :=
  ⟨backend.transaction, rfl⟩

theorem SameBackend.trans {first second third : Backend} (h : SameBackend first second)
    (h' : SameBackend second third) : SameBackend first third := by
  obtain ⟨_, rfl⟩ := h
  obtain ⟨transaction, rfl⟩ := h'
  exact ⟨transaction, rfl⟩

theorem SameBackend.linked {before after : Backend} (h : SameBackend before after)
    (hlinked : Linked before ledger) : Linked after ledger := by
  obtain ⟨transaction, rfl⟩ := h
  exact hlinked.transaction transaction

/-! ## Requests -/

theorem meets_query {post : Progress SourceError (List Device) → World → Prop}
    (h : ∀ result catalogs, post result { world.log (.sent .catalog) with catalogs := catalogs }) :
    query.Meets world post := by
  unfold Routine.Meets query
  split
  · exact h _ world.catalogs
  · exact h _ _
  · exact h _ _

theorem meets_send {target : Target} {post : Progress SourceError Http → World → Prop}
    (h : ∀ result replies, post result { world.log (.sent target) with replies := replies }) :
    (send target).Meets world post := by
  unfold Routine.Meets send
  split
  · exact h _ world.replies
  · exact h _ _

/-- A request was waited for: its number is taken, and the ledger has seen it or has not. -/
structure Requested (start : Ledger) (target : Target) (before after : World) : Prop where
  kept : Ledger.monitor.Kept start after.events
  backend : SameBackend before.backend after.backend
  ledger : after.ledger start = before.ledger start
    ∨ after.ledger start = (before.ledger start).observe (.sent target)

theorem verifyIdentity_meets (h : Sound start world)
    (hexpired : (world.ledger start).expired = false) :
    (verifyIdentity normalizeId).Meets world fun _ after =>
      Ledger.monitor.Kept start after.events ∧ SameBackend world.backend after.backend
        ∧ after.ledger start = world.ledger start := by
  unfold verifyIdentity
  simp only [meets_bind, meets_get, continues_done]
  split
  · exact ⟨h.kept, .refl _, rfl⟩
  · unfold transact
    simp only [meets_bind, meets_act, continues_done]
    have hset := h.set (h.linked.transaction (nextTransaction world.backend.transaction))
    have hlog := hset.log (.sent .catalog) hexpired hset.linked
    have hpost : ∀ catalogs, Ledger.monitor.Kept start
          ({ (world.set { world.backend with
            transaction := nextTransaction world.backend.transaction }).log (.sent .catalog) with
              catalogs := catalogs } : World).events
        ∧ SameBackend world.backend
          { world.backend with transaction := nextTransaction world.backend.transaction }
        ∧ (world.set _).ledger start = world.ledger start :=
      fun _ => ⟨hlog.kept, ⟨_, rfl⟩, rfl⟩
    apply meets_query
    intro result catalogs
    have hledger := ledger_log start (world.set { world.backend with
      transaction := nextTransaction world.backend.transaction }) (.sent .catalog)
    cases result with
    | done catalog =>
      simp only [continues_done, meets_ensure]
      split
      · exact ⟨(hpost catalogs).1, (hpost catalogs).2.1, hledger⟩
      · exact ⟨(hpost catalogs).1, (hpost catalogs).2.1, hledger⟩
    | failed error => exact ⟨(hpost catalogs).1, (hpost catalogs).2.1, hledger⟩
    | pending => exact ⟨(hpost catalogs).1, (hpost catalogs).2.1, hledger⟩

theorem request_meets (h : Sound start world) (target : Target)
    (hexpired : (world.ledger start).expired = false)
    (hallows : (world.ledger start).Allows (.sent target)) :
    (request normalizeId parse target).Meets world fun _ after =>
      Requested start target world after := by
  unfold request
  simp only [meets_bind]
  refine (verifyIdentity_meets h hexpired).mono ?_
  intro result after hafter
  obtain ⟨hkept, hsame, hledger⟩ := hafter
  cases result with
  | failed error => exact ⟨hkept, hsame, .inl hledger⟩
  | pending => exact ⟨hkept, hsame, .inl hledger⟩
  | done _ =>
    unfold transact
    simp only [continues_done, meets_bind, meets_act]
    apply meets_send
    intro result replies
    have hsent : Requested start target world
        { (after.set { after.backend with
            transaction := nextTransaction after.backend.transaction }).log (.sent target) with
          replies := replies } := by
      refine ⟨?_, hsame.trans ⟨_, rfl⟩, .inr ?_⟩
      · change Ledger.monitor.Kept start (after.events ++ [.sent target])
        rw [Monitor.kept_append]
        refine ⟨hkept, ?_, trivial⟩
        change (after.ledger start).Allows (.sent target)
        rw [hledger]
        exact hallows
      · rw [← hledger]
        exact ledger_log _ _ _
    cases result with
    | failed error => exact hsent
    | pending => exact hsent
    | done response =>
      simp only [continues_done, meets_bind]
      cases readBody target response with
      | error error => exact hsent
      | ok body =>
        simp only [Routine.meets_ofExcept_ok, continues_done]
        cases parseResponse (parse body) (nextTransaction after.backend.transaction)
          target.isWrite with
        | error error => exact hsent
        | ok value => exact hsent

theorem Requested.sound {target : Target} {after : World} (h : Requested start target world after)
    (hsound : Sound start world) (htarget : target.isWrite = false) :
    Sound start after ∧ SameBackend world.backend after.backend
      ∧ after.ledger start = world.ledger start := by
  have hledger : after.ledger start = world.ledger start := by
    rcases h.ledger with hsame | hsent
    · exact hsame
    · rw [hsent]
      cases target with
      | catalog => rfl
      | read member => rfl
      | write request => cases htarget
  refine ⟨⟨h.kept, ?_⟩, h.backend, hledger⟩
  rw [hledger]
  exact h.backend.linked hsound.linked

theorem connectionBoolean_meets (h : Sound start world) (member : Member)
    (hexpired : (world.ledger start).expired = false)
    {post : Progress SourceError Bool → World → Prop}
    (hread : ∀ value after, Ledger.monitor.Kept start after.events →
      SameBackend world.backend after.backend →
        after.ledger start = (world.ledger start).observe (.read member value) →
          post (.done value) after)
    (hfailed : ∀ error after, Sound start after → SameBackend world.backend after.backend →
      after.ledger start = world.ledger start → post (.failed error) after)
    (hpending : ∀ after, Sound start after → SameBackend world.backend after.backend →
      after.ledger start = world.ledger start → post .pending after) :
    (connectionBoolean normalizeId parse member).Meets world post := by
  unfold connectionBoolean
  simp only [meets_bind]
  refine (request_meets h (.read member) hexpired hexpired).mono ?_
  intro result after hafter
  obtain ⟨hsound, hsame, hledger⟩ := hafter.sound h rfl
  cases result with
  | failed error => exact hfailed error after hsound hsame hledger
  | pending => exact hpending after hsound hsame hledger
  | done value =>
    simp only [continues_done]
    split
    · exact hfailed _ after hsound hsame hledger
    · next value _ =>
      simp only [meets_bind, meets_modify, continues_done, meets_ret]
      refine hread value _ ?_ hsame ?_
      · change Ledger.monitor.Kept start (after.events ++ [.read member value])
        rw [Monitor.kept_append]
        exact ⟨hsound.kept, by cases member <;> exact trivial, trivial⟩
      · rw [ledger_log, hledger]

def outcome (write : Write) : Progress SourceError Unit → Event
  | .done _ => .written write (.ok ())
  | .failed error => .written write (.error error)
  | .pending => .abandoned write

theorem connectionWrite_meets (h : Sound start world) (write : Write)
    (hexpired : (world.ledger start).expired = false)
    (hallows : (world.ledger start).Allows (.sent (.write write))) :
    (connectionWrite normalizeId parse write).Meets world fun result after =>
      Ledger.monitor.Kept start after.events ∧ SameBackend world.backend after.backend
        ∧ (after.ledger start = (world.ledger start).observe (outcome write result)
          ∨ after.ledger start
            = ((world.ledger start).observe (.sent (.write write))).observe (outcome write result)) := by
  have hrequest : (request normalizeId parse (.write write)).Meets world fun _ after =>
      Requested start (.write write) world after := request_meets h (.write write) hexpired hallows
  unfold Routine.Meets at hrequest ⊢
  unfold connectionWrite
  cases hrun : request normalizeId parse (.write write) world with
  | mk result after =>
    rw [hrun] at hrequest
    have hlogged : ∀ event, (∀ ledger : Ledger, ledger.Allows event) →
        Ledger.monitor.Kept start (after.log event).events
          ∧ SameBackend world.backend after.backend
          ∧ ((after.log event).ledger start = (world.ledger start).observe event
            ∨ (after.log event).ledger start
              = ((world.ledger start).observe (.sent (.write write))).observe event) := by
      intro event hevent
      refine ⟨?_, hrequest.backend, ?_⟩
      · change Ledger.monitor.Kept start (after.events ++ [event])
        rw [Monitor.kept_append]
        exact ⟨hrequest.kept, hevent _, trivial⟩
      · rw [ledger_log]
        rcases hrequest.ledger with hsame | hsent
        · exact .inl (by rw [hsame])
        · exact .inr (by rw [hsent])
    cases result with
    | done value => exact hlogged (.written write (.ok ())) fun _ => trivial
    | failed error => exact hlogged (.written write (.error error)) fun _ => trivial
    | pending => exact hlogged (.abandoned write) fun _ => trivial

theorem Linked.uncertain (h : Linked backend ledger) :
    Linked { backend with connectionUncertain := true } ledger := { h with
  lost := fun _ => rfl
  opened := fun method hopened => ⟨(h.opened method hopened).1, fun hcertain => by cases hcertain⟩
  ready := fun _ hcertain => by cases hcertain }

/-! ## Phases -/

/-- A phase leaves the world sound, and no write is uncertain if it ends well. -/
def Phased (start : Ledger) {α : Type} (result : Progress SourceError α) (after : World) : Prop :=
  Sound start after ∧ (result.isDone = true → after.backend.connectionUncertain = false)

theorem Sound.certain (h : Sound start world) (hcertain : world.backend.connectionUncertain = false) :
    (world.ledger start).lost = false := by
  cases hlost : (world.ledger start).lost with
  | false => rfl
  | true => rw [h.linked.lost hlost] at hcertain; cases hcertain

theorem SameBackend.certain {before after : Backend} (h : SameBackend before after)
    (hcertain : before.connectionUncertain = false) : after.connectionUncertain = false := by
  obtain ⟨_, rfl⟩ := h
  exact hcertain

theorem SameBackend.phase {before after : Backend} (h : SameBackend before after) :
    after.connectionPhase = before.connectionPhase := by
  obtain ⟨_, rfl⟩ := h
  rfl

theorem Linked.not_closing (h : Linked backend ledger)
    (hphase : backend.connectionPhase ≠ .waitClose) : ledger.closing = false := by
  cases hclosing : ledger.closing with
  | false => rfl
  | true => exact absurd (h.closing hclosing) hphase

theorem Linked.not_expired (h : Linked backend ledger)
    (hphase : backend.connectionPhase ≠ .failed) : ledger.expired = false := by
  cases hexpired : ledger.expired with
  | false => rfl
  | true => exact absurd (h.expired hexpired) hphase

/-! ## Connection -/

theorem discover_meets (h : Sound start world)
    (hcertain : world.backend.connectionUncertain = false)
    (hphase : world.backend.connectionPhase = .discover)
    (hexpired : (world.ledger start).expired = false) :
    (discover normalizeId parse).Meets world (Phased start) := by
  unfold discover
  simp only [meets_bind, meets_attempt]
  refine (request_meets h (.read .interfaceVersion) hexpired hexpired).mono ?_
  intro result after hafter
  obtain ⟨hsound, hsame, -⟩ := hafter.sound h rfl
  have hstays : after.backend.connectionUncertain = false := hsame.certain hcertain
  have hfailed : ∀ error : SourceError,
      Phased start (.failed error : Progress SourceError Unit) after := fun _ => ⟨hsound, fun hdone => by cases hdone⟩
  have hlinked := hsound.linked
  have hupdated : ∀ (version : Option Nat) (method : ConnectionMethod),
      Phased start (.done () : Progress SourceError Unit) (after.set { after.backend with
        interfaceVersion := version
        connectionMethod := some method
        connectionPhase := .check }) := by
    intro version method
    have hclosing := hlinked.not_closing (by rw [hsame.phase, hphase]; decide)
    have hfresh := hlinked.not_expired (by rw [hsame.phase, hphase]; decide)
    refine ⟨hsound.set ?_, fun _ => hstays⟩
    exact
      { hlinked with
        opening := fun hopen => by cases hopen
        ready := fun hready => by cases hready
        expired := fun hover => by rw [hfresh] at hover; cases hover
        closing := fun hclose => by rw [hclosing] at hclose; cases hclose }
  cases result with
  | pending => exact ⟨hsound, fun hdone => by cases hdone⟩
  | failed error =>
    simp only [Routine.Attempted, continues_done]
    split
    · exact hupdated _ _
    · exact hfailed error
  | done value =>
    simp only [Routine.Attempted, continues_done]
    split
    · exact hupdated _ _
    · exact hfailed _

theorem phased_enter {after : World} {ledger : Ledger} (hkept : Ledger.monitor.Kept start after.events)
    (hledger : after.ledger start = ledger) (hcertain : after.backend.connectionUncertain = false)
    {phase : ConnectionPhase}
    (hlinked : Linked { after.backend with connectionPhase := phase } ledger) :
    Phased start (.done () : Progress SourceError Unit)
      (after.set { after.backend with connectionPhase := phase }) :=
  ⟨⟨hkept, by rw [← hledger] at hlinked; exact hlinked⟩, fun _ => hcertain⟩

theorem phased_fail (after : World) (hkept : Ledger.monitor.Kept start after.events)
    (hledger : after.ledger start = ledger) (hlinked : Linked after.backend ledger)
    (error : SourceError) : Phased start (.failed error : Progress SourceError Unit) after :=
  ⟨⟨hkept, by rw [← hledger] at hlinked; exact hlinked⟩, fun hdone => by cases hdone⟩

theorem Linked.read (h : Linked backend ledger)
    (hphase : backend.connectionPhase ≠ .open_ ∧ backend.connectionPhase ≠ .ready) (member : Member)
    (value : Bool) : Linked backend (ledger.observe (.read member value)) := by
  have hopening : backend.connectionPhase ≠ .open_ := hphase.1
  have hready : backend.connectionPhase ≠ .ready := hphase.2
  cases member with
  | interfaceVersion => exact h
  | connected =>
    exact ⟨h.policy, h.lost, h.opened, fun hopen => absurd hopen hopening,
      fun hgone => absurd hgone hready, h.expired, h.closing⟩
  | connecting =>
    refine ⟨h.policy, h.lost, h.opened, fun hopen => absurd hopen hopening,
      fun hgone => absurd hgone hready, h.expired, fun hclosing => h.closing ?_⟩
    exact (Bool.and_eq_true _ _ ▸ hclosing).1

theorem check_meets (h : Sound start world) (hcertain : world.backend.connectionUncertain = false)
    (hphase : world.backend.connectionPhase = .check)
    (hexpired : (world.ledger start).expired = false) :
    (check normalizeId parse).Meets world (Phased start) := by
  have hlinked := h.linked
  have hclosing := hlinked.not_closing (by rw [hphase]; decide)
  unfold check
  simp only [meets_bind]
  refine connectionBoolean_meets h .connected hexpired ?_ ?_ ?_
  · intro value after hkept hsame hledger
    have hstays := hsame.certain hcertain
    have hsame' := hsame.linked hlinked
    have hread : Linked after.backend ((world.ledger start).observe (.read .connected value)) :=
      hsame'.read (by rw [hsame.phase, hphase]; decide) .connected value
    simp only [continues_done, meets_bind, meets_get]
    split
    · next hready =>
      refine phased_enter hkept hledger hstays ?_
      exact
        { hread with
          opening := fun hopen => by cases hopen
          ready := fun _ _ => by simp [Ledger.observe, hready.1]
          expired := fun hover => by
            change (world.ledger start).expired = true at hover
            rw [hexpired] at hover
            cases hover
          closing := fun hclose => by
            change (world.ledger start).closing = true at hclose
            rw [hclosing] at hclose
            cases hclose }
    · next hnot =>
      split
      · exact phased_fail _ hkept hledger hread _
      · next hmanaged =>
        refine phased_enter hkept hledger hstays ?_
        exact
          { hread with
            opening := fun _ => by
              refine ⟨?_, fun hmethod hvalue => hnot ⟨?_, fun hmodern => ?_⟩⟩
              · rw [hread.policy]
                simpa using hmanaged
              · exact Option.some.inj hvalue
              · rw [hmodern.2] at hmethod
                cases hmethod
            ready := fun hready => by cases hready
            expired := fun hover => by
              change (world.ledger start).expired = true at hover
              rw [hexpired] at hover
              cases hover
            closing := fun hclose => by
              change (world.ledger start).closing = true at hclose
              rw [hclosing] at hclose
              cases hclose }
  · exact fun error after hsound _ _ => ⟨hsound, fun hdone => by cases hdone⟩
  · exact fun after hsound _ _ => ⟨hsound, fun hdone => by cases hdone⟩

theorem connecting_meets (h : Sound start world)
    (hcertain : world.backend.connectionUncertain = false)
    (hphase : world.backend.connectionPhase = .waitOpen ∨ world.backend.connectionPhase = .waitClose)
    (hexpired : (world.ledger start).expired = false) {next : ConnectionPhase}
    (hnext : next = .verify ∨ next = .discover) :
    (connectionBoolean normalizeId parse .connecting >>= fun connecting =>
      if connecting then Routine.ret () else enter next).Meets world (Phased start) := by
  have hlinked := h.linked
  simp only [meets_bind]
  refine connectionBoolean_meets h .connecting hexpired ?_ ?_ ?_
  · intro value after hkept hsame hledger
    have hstays := hsame.certain hcertain
    have hread := (hsame.linked hlinked).read
      (by rw [hsame.phase]; rcases hphase with heq | heq <;> rw [heq] <;> decide) .connecting value
    cases value with
    | true => exact ⟨⟨hkept, by rw [← hledger] at hread; exact hread⟩, fun _ => hstays⟩
    | false =>
      refine phased_enter hkept hledger hstays ?_
      exact
        { hread with
          opening := fun hopen => by rcases hnext with rfl | rfl <;> cases hopen
          ready := fun hready => by rcases hnext with rfl | rfl <;> cases hready
          expired := fun hover => by
            change (world.ledger start).expired = true at hover
            rw [hexpired] at hover
            cases hover
          closing := fun hclose => by simp [Ledger.observe] at hclose }
  · exact fun error after hsound _ _ => ⟨hsound, fun hdone => by cases hdone⟩
  · exact fun after hsound _ _ => ⟨hsound, fun hdone => by cases hdone⟩

theorem verify_meets (h : Sound start world) (hcertain : world.backend.connectionUncertain = false)
    (hphase : world.backend.connectionPhase = .verify)
    (hexpired : (world.ledger start).expired = false) :
    (verify normalizeId parse).Meets world (Phased start) := by
  have hlinked := h.linked
  have hclosing := hlinked.not_closing (by rw [hphase]; decide)
  unfold verify
  simp only [meets_bind]
  refine connectionBoolean_meets h .connected hexpired ?_ ?_ ?_
  · intro value after hkept hsame hledger
    have hstays := hsame.certain hcertain
    have hread := (hsame.linked hlinked).read (by rw [hsame.phase, hphase]; decide) .connected value
    have hclosed : ((world.ledger start).observe (.read .connected value)).closing = true → False :=
      fun hclose => by
        change (world.ledger start).closing = true at hclose
        rw [hclosing] at hclose
        cases hclose
    have hover : ((world.ledger start).observe (.read .connected value)).expired = true → False :=
      fun hover => by
        change (world.ledger start).expired = true at hover
        rw [hexpired] at hover
        cases hover
    cases value with
    | true =>
      refine phased_enter hkept hledger hstays ?_
      exact
        { hread with
          opening := fun hopen => by cases hopen
          ready := fun _ _ => by simp [Ledger.observe]
          expired := fun h => (hover h).elim
          closing := fun h => (hclosed h).elim }
    | false =>
      refine phased_fail (after.set { after.backend with connectionPhase := .failed })
        hkept hledger ?_ _
      exact
        { hread with
          opening := fun hopen => by cases hopen
          ready := fun hready => by cases hready
          expired := fun _ => rfl
          closing := fun h => (hclosed h).elim }
  · exact fun error after hsound _ _ => ⟨hsound, fun hdone => by cases hdone⟩
  · exact fun after hsound _ _ => ⟨hsound, fun hdone => by cases hdone⟩

theorem openConnection_meets (h : Sound start world)
    (hcertain : world.backend.connectionUncertain = false)
    (hphase : world.backend.connectionPhase = .open_) {method : ConnectionMethod}
    (hmethod : world.backend.connectionMethod = some method)
    (hexpired : (world.ledger start).expired = false) :
    (openConnection normalizeId parse method).Meets world (Phased start) := by
  have hlinked := h.linked
  have hlost := h.certain hcertain
  have hclosing := hlinked.not_closing (by rw [hphase]; decide)
  obtain ⟨hmanaged, hlegacy⟩ := hlinked.opening hphase
  have hallows : (world.ledger start).Allows (.sent (.write ⟨method, true⟩)) :=
    ⟨hmanaged, hlost, hexpired, hclosing, fun hold => hlegacy (by rw [hmethod, hold])⟩
  unfold openConnection update
  simp only [meets_bind, meets_modify, continues_done, meets_attempt]
  have hbefore : Sound start (world.set { world.backend with connectionUncertain := true }) :=
    h.set hlinked.uncertain
  refine (connectionWrite_meets hbefore ⟨method, true⟩ hexpired hallows).mono ?_
  intro result after hafter
  obtain ⟨hkept, hsame, hledgers⟩ := hafter
  have hledger : after.ledger start
      = (world.ledger start).observe (outcome ⟨method, true⟩ result) := by
    rcases hledgers with hsame | hsent
    · exact hsame
    · exact hsent
  obtain ⟨transaction, heq⟩ := hsame
  cases result with
  | pending =>
    refine ⟨⟨hkept, ?_⟩, fun hdone => by cases hdone⟩
    rw [hledger, heq]
    exact ⟨hlinked.policy, fun _ => rfl,
      fun method' hopened => ⟨(hlinked.opened method' hopened).1, fun hsure => (by cases hsure)⟩,
      hlinked.opening, fun _ hsure => (by cases hsure), hlinked.expired, hlinked.closing⟩
  | done _ =>
    simp only [Routine.Attempted, continues_done, meets_modify]
    refine ⟨⟨hkept, ?_⟩, fun _ => rfl⟩
    change Linked _ (after.ledger start)
    rw [hledger, heq]
    exact
      { policy := hlinked.policy
        lost := fun hgone => by
          change (world.ledger start).lost = true at hgone
          rw [hlost] at hgone
          cases hgone
        opened := fun method' hopened => by
          cases hopened
          exact ⟨hmanaged, fun _ => rfl⟩
        opening := fun hopen => by
          cases method <;> cases hopen
        ready := fun hready _ => by
          cases method with
          | legacy => simp [outcome, Ledger.observe]
          | async => cases hready
        expired := fun hover => by
          change (world.ledger start).expired = true at hover
          rw [hexpired] at hover
          cases hover
        closing := fun hclose => by
          change (world.ledger start).closing = true at hclose
          rw [hclosing] at hclose
          cases hclose }
  | failed error =>
    simp only [Routine.Attempted, continues_done]
    have hwritten : ∀ uncertain : Bool, (error.leavesWriteOpen = true → uncertain = true) →
        Linked { world.backend with connectionUncertain := uncertain, transaction := transaction }
          ((world.ledger start).observe (.written ⟨method, true⟩ (.error error))) := by
      intro uncertain hopen
      exact
        { hlinked with
          lost := fun hgone => hopen (by
            change ((world.ledger start).lost || error.leavesWriteOpen) = true at hgone
            rw [hlost] at hgone
            exact hgone)
          opened := fun method' hopened =>
            ⟨(hlinked.opened method' hopened).1,
              fun _ => (hlinked.opened method' hopened).2 hcertain⟩
          ready := fun hready => by
            change world.backend.connectionPhase = .ready at hready
            rw [hphase] at hready
            cases hready }
    split
    · refine phased_fail _ hkept hledger ?_ error
      rw [heq]
      exact hwritten true fun _ => rfl
    · next hclosed =>
      refine phased_fail (after.set { after.backend with connectionUncertain := false })
        hkept hledger ?_ error
      rw [heq]
      exact hwritten false fun hopen => absurd hopen hclosed

def Stepped (start : Ledger) (result : Progress SourceError Bool) (after : World) : Prop :=
  Sound start after ∧ (result = .done true →
    (after.ledger start).evidence = true ∧ (after.ledger start).lost = false)

theorem Phased.stepped {after : World} {result : Progress SourceError Unit}
    (h : Phased start result after) : Routine.Continues (fun _ => do
      let world ← Routine.get
      Routine.ret (world.backend.connectionPhase = .ready : Bool)) (Stepped start) result after := by
  cases result with
  | failed error => exact ⟨h.1, fun hdone => by cases hdone⟩
  | pending => exact ⟨h.1, fun hdone => by cases hdone⟩
  | done _ =>
    simp only [continues_done, meets_bind, meets_get, meets_ret]
    refine ⟨h.1, fun hdone => ?_⟩
    have hready : after.backend.connectionPhase = .ready := by
      simpa using hdone
    exact ⟨h.1.linked.ready hready (h.2 rfl), h.1.certain (h.2 rfl)⟩

theorem connectionOperation_meets (h : Sound start world)
    (hcertain : world.backend.connectionUncertain = false)
    (hphase : world.backend.connectionPhase ≠ .failed) :
    (connectionOperation normalizeId parse).Meets world (Stepped start) := by
  have hexpired := h.linked.not_expired hphase
  unfold connectionOperation
  simp only [meets_bind, meets_get, continues_done]
  have hidle : Phased start (.done () : Progress SourceError Unit) world := ⟨h, fun _ => hcertain⟩
  split
  · next hcase => exact (discover_meets h hcertain hcase hexpired).bind fun _ _ => Phased.stepped
  · next hcase => exact (check_meets h hcertain hcase hexpired).bind fun _ _ => Phased.stepped
  · next hcase =>
    split
    · next method hmethod =>
      exact (openConnection_meets h hcertain hcase hmethod hexpired).bind fun _ _ => Phased.stepped
    · exact ⟨h, fun hdone => by cases hdone⟩
  · next hcase =>
    have hwait : (waitOpen normalizeId parse).Meets world (Phased start) :=
      connecting_meets h hcertain (.inl hcase) hexpired (.inl rfl)
    exact hwait.bind fun _ _ => Phased.stepped
  · next hcase => exact (verify_meets h hcertain hcase hexpired).bind fun _ _ => Phased.stepped
  · next hcase =>
    have hwait : (waitClose normalizeId parse).Meets world (Phased start) :=
      connecting_meets h hcertain (.inr hcase) hexpired (.inr rfl)
    exact hwait.bind fun _ _ => Phased.stepped
  · exact Phased.stepped hidle
  · exact Phased.stepped hidle

theorem expire_meets (h : Sound start world) : expire.Meets world (Stepped start) := by
  have hlinked := h.linked
  unfold expire enter update
  simp only [meets_bind, meets_modify, continues_done, meets_fail]
  refine ⟨⟨?_, ?_⟩, fun hdone => by cases hdone⟩
  · change Ledger.monitor.Kept start (world.events ++ [.expired])
    rw [Monitor.kept_append]
    exact ⟨h.kept, trivial, trivial⟩
  · rw [ledger_log]
    exact
      { hlinked with
        opening := fun hopen => by cases hopen
        ready := fun hready => by cases hready
        expired := fun _ => rfl
        closing := fun hclose => by cases hclose }

theorem bounded_meets {expires : Bool} {task : Task Bool} (h : task.Meets world (Stepped start)) :
    (bounded expires task).Meets world (Stepped start) := by
  unfold Routine.Meets at h ⊢
  unfold bounded
  cases hrun : task world with
  | mk result after =>
    rw [hrun] at h
    cases result with
    | done value => exact h
    | failed error => exact h
    | pending =>
      dsimp only
      split
      · exact expire_meets h.1
      · exact h

theorem connectionStep_meets (h : Sound start world) (expires : Bool) :
    (connectionStep normalizeId parse expires).Meets world (Stepped start) := by
  unfold connectionStep
  simp only [meets_bind, meets_get, continues_done]
  split
  · exact ⟨h, fun hdone => by cases hdone⟩
  · next huncertain =>
    have hcertain : world.backend.connectionUncertain = false := by simpa using huncertain
    split
    · next hready => exact ⟨h, fun _ => ⟨h.linked.ready hready hcertain, h.certain hcertain⟩⟩
    · split
      · exact ⟨h, fun hdone => by cases hdone⟩
      · next hphase =>
        unfold update
        simp only [meets_bind, meets_modify, continues_done]
        have hlinked := h.linked
        have hstarted : Sound start (world.set { world.backend with
            connectionStarted := some (world.backend.connectionStarted.getD world.now) }) :=
          h.set { hlinked with }
        split
        · exact expire_meets hstarted
        · exact bounded_meets (connectionOperation_meets hstarted hcertain hphase)

theorem disconnect_meets (h : Sound start world) :
    (disconnect normalizeId parse).Meets (world.log .disconnecting) fun _ after =>
      Sound start after := by
  have hlinked := h.linked
  have hledger := ledger_log start world .disconnecting
  have hlogged : Ledger.monitor.Kept start (world.log .disconnecting).events := by
    change Ledger.monitor.Kept start (world.events ++ [.disconnecting])
    rw [Monitor.kept_append]
    exact ⟨h.kept, trivial, trivial⟩
  -- Evidence is gone, so the phase must not stay Ready unless a write is uncertain.
  have hgone : ∀ backend : Backend, backend.policy = world.backend.policy →
      backend.openedConnection = world.backend.openedConnection →
      backend.connectionMethod = world.backend.connectionMethod →
      (world.backend.connectionUncertain = true → backend.connectionUncertain = true) →
      (backend.connectionPhase = world.backend.connectionPhase ∨ backend.connectionPhase = .discover) →
      (backend.connectionPhase = .ready → backend.connectionUncertain = true) →
      ((world.ledger start).closing = true → backend.connectionPhase = .waitClose) →
      (backend.connectionUncertain = false → world.backend.connectionUncertain = false) →
      Linked backend ((world.ledger start).observe .disconnecting) := by
    intro backend hpolicy hopened hmethod huncertain hphase hready hclosing hcertain
    exact
      { policy := hlinked.policy.trans (by rw [hpolicy])
        lost := fun hlost => huncertain (hlinked.lost hlost)
        opened := fun method hopen => by
          rw [hopened] at hopen
          exact ⟨(hlinked.opened method hopen).1,
            fun hsure => (hlinked.opened method hopen).2 (hcertain hsure)⟩
        opening := fun hopen => by
          rcases hphase with hsame | hdiscover
          · rw [hmethod]
            exact hlinked.opening (hsame.symm.trans hopen)
          · rw [hdiscover] at hopen
            cases hopen
        ready := fun hnow hsure => by
          rw [hready hnow] at hsure
          cases hsure
        expired := fun hover => by cases hover
        closing := hclosing }
  unfold disconnect
  simp only [meets_bind, meets_get, continues_done]
  split
  · next method hopened =>
    split
    · next huncertain =>
      refine ⟨hlogged, ?_⟩
      change Linked world.backend ((world.log .disconnecting).ledger start)
      rw [hledger]
      exact hgone world.backend rfl rfl rfl id (.inl rfl) (fun _ => huncertain) hlinked.closing id
    · next huncertain =>
      have hcertain : world.backend.connectionUncertain = false := eq_false_of_ne_true huncertain
      have hlost := h.certain hcertain
      obtain ⟨hmanaged, hopening⟩ := hlinked.opened method hopened
      unfold update
      simp only [meets_bind, meets_modify, continues_done]
      have hbefore : Sound start ((world.log .disconnecting).set
          { world.backend with connectionUncertain := true }) := by
        refine ⟨hlogged, ?_⟩
        change Linked _ ((world.log .disconnecting).ledger start)
        rw [hledger]
        exact hgone { world.backend with connectionUncertain := true } rfl rfl rfl (fun _ => rfl)
          (.inl rfl) (fun _ => rfl) hlinked.closing (fun hsure => by cases hsure)
      have hseen : ((world.log .disconnecting).set
          { world.backend with connectionUncertain := true }).ledger start
            = (world.ledger start).observe .disconnecting := hledger
      have hallows : ((world.ledger start).observe .disconnecting).Allows
          (.sent (.write ⟨method, false⟩)) := ⟨hmanaged, hlost, hopening hcertain⟩
      refine (connectionWrite_meets hbefore ⟨method, false⟩ (by rw [hseen]; rfl)
        (by rw [hseen]; exact hallows)).mono ?_
      intro result after hafter
      obtain ⟨hkept, ⟨transaction, heq⟩, hledgers⟩ := hafter
      rw [hseen] at hledgers
      cases result with
      | pending =>
        refine ⟨hkept, ?_⟩
        rcases hledgers with hafter | hafter <;> rw [hafter, heq]
        all_goals exact
          { hlinked with
            lost := fun _ => rfl
            opened := fun method' hopen => ⟨hmanaged, fun hsure => by cases hsure⟩
            ready := fun _ hsure => by cases hsure
            expired := fun hover => by cases hover }
      | failed error =>
        refine ⟨hkept, ?_⟩
        rcases hledgers with hafter | hafter <;> rw [hafter, heq]
        all_goals exact
          { hlinked with
            lost := fun _ => rfl
            opened := fun method' hopen => ⟨hmanaged, fun hsure => by cases hsure⟩
            ready := fun _ hsure => by cases hsure
            expired := fun hover => by cases hover }
      | done _ =>
        simp only [continues_done, meets_modify]
        refine ⟨hkept, ?_⟩
        change Linked _ (after.ledger start)
        rcases hledgers with hafter | hafter <;> rw [hafter, heq]
        all_goals exact
          { policy := hlinked.policy
            lost := fun hgone => by
              change (world.ledger start).lost = true at hgone
              rw [hlost] at hgone
              cases hgone
            opened := fun method' hopen => by cases hopen
            opening := fun hopen => by cases method <;> cases hopen
            ready := fun hready => by cases method <;> cases hready
            expired := fun hover => by cases hover
            closing := fun hclose => by
              cases method with
              | legacy => cases hclose
              | async => rfl }
  · next hnone =>
    split
    · next hwait =>
      refine ⟨hlogged, ?_⟩
      change Linked world.backend ((world.log .disconnecting).ledger start)
      rw [hledger]
      refine hgone world.backend rfl rfl rfl id (.inl rfl) (fun hready => ?_) hlinked.closing id
      exact absurd (hready.symm.trans hwait) (by decide)
    · next hwait =>
      unfold update
      simp only [meets_modify]
      refine ⟨hlogged, ?_⟩
      change Linked { world.backend with connectionPhase := .discover, connectionStarted := none }
        ((world.log .disconnecting).ledger start)
      rw [hledger]
      refine hgone _ rfl rfl rfl id (.inr rfl) (fun hready => by cases hready) (fun hclose => ?_) id
      exact absurd (hlinked.closing hclose) hwait

theorem reset_linked (h : Linked backend ledger) :
    Linked (reset backend) (ledger.observe .reset) := by
  have hdiscover : ∀ phase, backend.connectionPhase = phase → phase ≠ .waitClose → phase ≠ .failed →
      Linked { backend with connectionPhase := .discover, connectionStarted := none }
        (ledger.observe .reset) := by
    intro phase hphase hwait hfailed
    subst hphase
    exact
      { h with
        opening := fun hopen => by cases hopen
        ready := fun hready => by cases hready
        expired := fun hover => absurd (h.expired hover) hfailed
        closing := fun hclose => absurd (h.closing hclose) hwait }
  unfold reset
  split
  · next hphase => exact hdiscover _ hphase (by decide) (by decide)
  · next hphase => exact hdiscover _ hphase (by decide) (by decide)
  · next hphase => exact hdiscover _ hphase (by decide) (by decide)
  · next hphase => exact hdiscover _ hphase (by decide) (by decide)
  · next hready _ _ hopen =>
    exact { h with ready := fun hnow => absurd hnow hready }

/-! ## Runs -/

structure Source.Sound (start : Ledger) (source : Source) : Prop where
  kept : Ledger.monitor.Kept start source.events
  linked : Linked source.backend (Ledger.monitor.view start source.events)

theorem Source.Sound.append {source : Source} {backend : Backend} {events : List Event}
    (hkept : Ledger.monitor.Kept start events)
    (hlinked : Linked backend (Ledger.monitor.view start events)) {event : Event}
    (hallows : (Ledger.monitor.view start events).Allows event)
    (hsame : (Ledger.monitor.view start events).observe event = Ledger.monitor.view start events) :
    Source.Sound start ⟨source.now, backend, events ++ [event]⟩ where
  kept := by
    rw [Monitor.kept_append]
    exact ⟨hkept, hallows, trivial⟩
  linked := by
    rw [Monitor.view_append]
    change Linked backend ((Ledger.monitor.view start events).observe event)
    rw [hsame]
    exact hlinked

theorem after_sound {run : Progress SourceError Bool × World} (h : Stepped start run.1 run.2) :
    (source.after run).Sound start := by
  obtain ⟨result, after⟩ := run
  obtain ⟨hsound, htrue⟩ := h
  cases result with
  | pending => exact ⟨hsound.kept, hsound.linked⟩
  | failed error => exact .append hsound.kept hsound.linked trivial rfl
  | done value =>
    refine .append hsound.kept hsound.linked ?_ rfl
    cases value with
    | false => exact trivial
    | true => exact htrue rfl

theorem step_sound (h : source.Sound start) (op : Op) :
    (source.step normalizeId parse op).Sound start := by
  cases op with
  | connectStep replies catalogs expires =>
    have hworld : Sound start (source.world replies catalogs) := ⟨h.kept, h.linked⟩
    exact after_sound (connectionStep_meets hworld expires)
  | disconnect replies catalogs =>
    have hworld : Sound start (source.world replies catalogs) := ⟨h.kept, h.linked⟩
    have hafter : (disconnect normalizeId parse).Meets
        ((source.world replies catalogs).log .disconnecting) fun _ after => Sound start after :=
      disconnect_meets hworld
    exact ⟨hafter.kept, hafter.linked⟩
  | reset =>
    refine ⟨?_, ?_⟩
    · change Ledger.monitor.Kept start (source.events ++ [.reset])
      rw [Monitor.kept_append]
      exact ⟨h.kept, trivial, trivial⟩
    · change Linked (reset source.backend) (Ledger.monitor.view start (source.events ++ [.reset]))
      rw [Monitor.view_append]
      exact reset_linked h.linked
  | tick elapsed => exact ⟨h.kept, h.linked⟩

theorem new_sound (policy : ConnectionPolicy) (deviceType : DeviceType)
    (identityPin : Option IdentityPin) (connectionDeadline : Nat) :
    (Source.new policy deviceType identityPin connectionDeadline).Sound (.new policy) where
  kept := trivial
  linked :=
    { policy := rfl
      lost := fun hlost => by cases hlost
      opened := fun method hopened => by cases hopened
      opening := fun hopen => by cases hopen
      ready := fun hready => by cases hready
      expired := fun hover => by cases hover
      closing := fun hclose => by cases hclose }

/-- The next step would be a request, but the deadline of the connection is over. -/
def Source.IsOver (source : Source) : Prop :=
  source.backend.connectionUncertain = false ∧ source.backend.connectionPhase ≠ .ready
    ∧ source.backend.connectionPhase ≠ .failed
    ∧ ∃ started, source.backend.connectionStarted = some started
      ∧ source.backend.connectionDeadline < source.now - started

theorem step_over (h : source.IsOver) (replies : List Http)
    (catalogs : List (Except SourceError (List Device))) (expires : Bool) :
    (source.step normalizeId parse (.connectStep replies catalogs expires)).events
      = source.events ++ [.expired] ++ [.stepped (.error connectionExpired)] := by
  obtain ⟨hcertain, hready, hfailed, started, hstarted, hover⟩ := h
  have hmeets : (connectionStep normalizeId parse expires).Meets (source.world replies catalogs)
      fun result after => result = .failed connectionExpired
        ∧ after.events = source.events ++ [.expired] := by
    unfold connectionStep
    simp only [meets_bind, meets_get, continues_done]
    have huncertain : ¬(source.world replies catalogs).backend.connectionUncertain = true := by
      simp [Source.world, hcertain]
    have hready' : (source.world replies catalogs).backend.connectionPhase ≠ .ready := hready
    have hfailed' : (source.world replies catalogs).backend.connectionPhase ≠ .failed := hfailed
    rw [if_neg huncertain, if_neg hready', if_neg hfailed']
    unfold update
    simp only [meets_bind, meets_modify, continues_done]
    have hnow : (source.world replies catalogs).backend.connectionDeadline
        < (source.world replies catalogs).now
          - (source.world replies catalogs).backend.connectionStarted.getD
            (source.world replies catalogs).now := by
      change source.backend.connectionDeadline
        < source.now - source.backend.connectionStarted.getD source.now
      rw [hstarted]
      exact hover
    rw [if_pos hnow]
    exact ⟨rfl, rfl⟩
  change (source.after _).events = _
  unfold Routine.Meets at hmeets
  cases hrun : connectionStep normalizeId parse expires (source.world replies catalogs) with
  | mk result after =>
    rw [hrun] at hmeets
    obtain ⟨rfl, hevents⟩ := hmeets
    change after.events ++ _ = _
    rw [hevents]

/-- Whatever a server answers and wherever a step is abandoned: only what the ledger allows
happens, and a step that begins when the deadline is over sends nothing. -/
theorem connectionOwnership (normalizeId : String → String) (parse : List UInt8 → Option Envelope)
    (policy : ConnectionPolicy) (deviceType : DeviceType) (identityPin : Option IdentityPin)
    (connectionDeadline : Nat) (ops : List Op) : (∀ before event after,
        ((machine normalizeId parse).final
          (Source.new policy deviceType identityPin connectionDeadline) ops).events
            = before ++ event :: after → (Ledger.monitor.view (.new policy) before).Allows event)
      ∧ ∀ replies catalogs expires, ((machine normalizeId parse).final
          (Source.new policy deviceType identityPin connectionDeadline) ops).IsOver →
        (((machine normalizeId parse).final
            (Source.new policy deviceType identityPin connectionDeadline) (ops
              ++ [.connectStep replies catalogs expires])).events
          = ((machine normalizeId parse).final
              (Source.new policy deviceType identityPin connectionDeadline) ops).events
            ++ [.expired] ++ [.stepped (.error connectionExpired)]) := by
  have hinductive : (machine normalizeId parse).Inductive
      (Source.new policy deviceType identityPin connectionDeadline)
      (Source.Sound (.new policy)) :=
    ⟨new_sound policy deviceType identityPin connectionDeadline, fun op h => step_sound h op⟩
  refine ⟨Monitor.kept_iff.mp (hinductive.final ops).kept, ?_⟩
  intro replies catalogs expires hover
  have hnext : (machine normalizeId parse).final
      (Source.new policy deviceType identityPin connectionDeadline)
        (ops ++ [.connectStep replies catalogs expires])
      = ((machine normalizeId parse).final
          (Source.new policy deviceType identityPin connectionDeadline) ops).step normalizeId parse
            (.connectStep replies catalogs expires) := by
    unfold Machine.final
    rw [List.foldl_append]
    rfl
  rw [hnext]
  exact step_over hover replies catalogs expires

def parseByte : List UInt8 → Option Envelope
  | [byte] => some ⟨0, none, if byte < 2 then some (.bool (byte == 1))
      else some (.number (.unsigned byte.toNat))⟩
  | _ => none

def reply (byte : UInt8) : Http :=
  .response 200 none none [some [byte]]

def ask (byte : UInt8) : Op :=
  .connectStep [reply byte] [] false

def monitorSource : Source :=
  .new .managed .safetyMonitor none 10

def Event.isClosed : Event → Bool
  | .read .connecting false => true
  | _ => false

def handshake : List Event :=
  [.sent (.read .interfaceVersion), .stepped (.ok false), .sent (.read .connected),
    .read .connected false, .stepped (.ok false), .sent (.write ⟨.async, true⟩),
    .written ⟨.async, true⟩ (.ok ()), .stepped (.ok false), .sent (.read .connecting),
    .read .connecting false, .stepped (.ok false), .sent (.read .connected), .read .connected true,
    .stepped (.ok true), .disconnecting, .sent (.write ⟨.async, false⟩)]

def givenUp : List Event :=
  [.sent (.read .connecting), .read .connecting true, .stepped (.ok false), .expired,
    .stepped (.error connectionExpired), .disconnecting, .sent (.read .interfaceVersion),
    .stepped (.ok false), .sent (.read .connected), .read .connected true, .stepped (.ok false)]

/-- The wait for a Disconnect runs out, is given up by another `disconnect`, and a new opening is
sent while the Disconnect may still be under way.  A reset starts a deadline anew that no step has
found to be over. -/
theorem closing_given_up : (∃ before mid, ((machine id parseByte).final monitorSource
          ([ask 3, ask 0, ask 1, ask 0, ask 1, .disconnect [reply 0] [], ask 1, .tick 20, ask 1,
            .disconnect [] [], ask 3, ask 1, ask 1])).events
          = before ++ [.written ⟨.async, false⟩ (.ok ())] ++ mid
            ++ [.sent (.write ⟨.async, true⟩), .written ⟨.async, true⟩ (.ok ()), .stepped (.ok false)]
        ∧ ∀ event ∈ mid, event.isClosed = false)
      ∧ ((machine id parseByte).final monitorSource [ask 3, .tick 20]).IsOver ∧ ∃ before,
        ((machine id parseByte).final monitorSource [ask 3, .tick 20, .reset, ask 3]).events
          = before ++ [.reset, .sent (.read .interfaceVersion), .stepped (.ok false)] := by
  refine ⟨⟨handshake, givenUp, rfl, ?_⟩, ?_, [.sent (.read .interfaceVersion), .stepped (.ok false)],
    rfl⟩
  · decide
  · exact ⟨rfl, by decide, by decide, 0, rfl, by decide⟩

end Alpaca

end Regain.Hub
