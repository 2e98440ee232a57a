import Regain.Core.Worker

/-!
# Framing of worker calls

A call that is answered consumed exactly one complete reply frame with its own identity. Any other
call consumed and wrote nothing, or killed the worker.
-/

namespace Regain.Core

open Lib
open Reader (andThen_error andThen_ok ensure_error ensure_ok exactly_error exactly_ok ofExcept
  ofExcept_ok)
open Worker (machine spawned)

/-- The bytes of one complete reply with the identity of its request. -/
structure Frame (codec : Codec) (id : Nat) (word header pixels : List UInt8) (reply : Json) :
    Prop where
  wordLength : word.length = 4
  headerLength : ofLittleEndian word = header.length
  nonempty : 1 ≤ header.length
  bounded : header.length ≤ maximumHeader
  parsed : codec.parse header = some reply
  identity : (reply.field "id").asNat = some id
  version : (reply.field "version").asInt = some 1
  announced : (reply.field "binaryLength").asNat = some pixels.length

def IsFrame (codec : Codec) (id : Nat) (bytes : List UInt8) : Prop :=
  ∃ word header pixels reply,
    bytes = word ++ (header ++ pixels) ∧ Frame codec id word header pixels reply

/-- The outcomes for which the pipe stays in step: a value, or a refusal by the worker. -/
def answers : Except Error Reply → Bool
  | .ok _ => true
  | .error error => error.isWorker

def stops : Except (Stop Error) Reply → Bool
  | .ok _ => true
  | .error (.error error) => error.isWorker
  | .error .interrupted => false

variable {error : Error} {method : String} {maximumBytes : Nat} {worker : Worker}
  {result : Except (Stop Error) Reply}

theorem admitReply_ok {codec : Codec} {id count : Nat} {header : List UInt8} {reply : Json}
    (hadmitted : admitReply codec method id maximumBytes header = .ok (reply, count)) :
    codec.parse header = some reply ∧ (reply.field "id").asNat = some id
      ∧ (reply.field "version").asInt = some 1
      ∧ (reply.field "binaryLength").asNat = some count ∧ count ≤ maximumBytes := by
  unfold admitReply at hadmitted
  split at hadmitted
  · exact nomatch hadmitted
  · rename_i parsed hparse
    split at hadmitted
    · exact nomatch hadmitted
    · rename_i hidentity
      split at hadmitted
      · exact nomatch hadmitted
      · rename_i found hcount
        split at hadmitted
        · exact nomatch hadmitted
        · rename_i hlength
          cases hadmitted
          simp only [Bool.not_eq_true', Bool.and_eq_false_iff, not_or, Bool.not_eq_false,
            decide_eq_true_eq] at hidentity hlength
          exact ⟨hparse, hidentity.1, hidentity.2, hcount, hlength.1.1⟩

theorem admitReply_error {codec : Codec} {id : Nat} {header : List UInt8}
    (hadmitted : admitReply codec method id maximumBytes header = .error error) :
    error.isWorker = false := by
  unfold admitReply at hadmitted
  split at hadmitted
  · cases hadmitted
    rfl
  · split at hadmitted
    · cases hadmitted
      rfl
    · split at hadmitted
      · cases hadmitted
        rfl
      · split at hadmitted
        · cases hadmitted
          rfl
        · exact nomatch hadmitted

theorem readBody_advances {reply : Json} {count : Nat} {allocates : Bool} {pipe pipe' : Pipe}
    (hrun : (readBody reply count allocates).run pipe = (result, pipe'))
    (hstops : stops result = true) :
    ∃ pixels : List UInt8, pixels.length = count ∧ pipe.Advances pipe' pixels := by
  unfold readBody at hrun
  split at hrun
  · cases result with
    | ok value =>
      obtain ⟨_, mid, _, hfail⟩ := andThen_ok hrun
      exact nomatch (Prod.mk.inj hfail).1
    | error stop =>
      rcases andThen_error hrun with hensure | ⟨_, mid, hensure, hfail⟩
      · obtain ⟨rfl, -⟩ := ensure_error hensure
        exact nomatch hstops
      · obtain ⟨hcount, rfl⟩ := ensure_ok hensure
        obtain ⟨-, rfl⟩ := Prod.mk.inj hfail
        exact ⟨[], (of_decide_eq_true hcount).symm, Pipe.Advances.refl _⟩
  · cases result with
    | ok value =>
      obtain ⟨_, first, hstatus, hrest⟩ := andThen_ok hrun
      obtain ⟨-, rfl⟩ := ensure_ok hstatus
      obtain ⟨_, second, hreserve, hread⟩ := andThen_ok hrest
      obtain ⟨-, rfl⟩ := ensure_ok hreserve
      obtain ⟨pixels, third, hpixels, hdone⟩ := andThen_ok hread
      obtain ⟨-, rfl⟩ := Prod.mk.inj hdone
      exact ⟨pixels, exactly_ok hpixels⟩
    | error stop =>
      rcases andThen_error hrun with hstatus | ⟨_, first, hstatus, hrest⟩
      · obtain ⟨rfl, -⟩ := ensure_error hstatus
        exact nomatch hstops
      · rcases andThen_error hrest with hreserve | ⟨_, second, hreserve, hread⟩
        · obtain ⟨rfl, -⟩ := ensure_error hreserve
          exact nomatch hstops
        · rcases andThen_error hread with hpixels | ⟨pixels, third, _, hdone⟩
          · obtain rfl := exactly_error hpixels
            exact nomatch hstops
          · exact nomatch (Prod.mk.inj hdone).1

private theorem readAdmitted_frame {codec : Codec} {method : String} {id maximumBytes : Nat}
    {allocates : Bool} {word header : List UInt8} {pipe pipe' : Pipe}
    {result : Except (Stop Error) Reply} (hword : word.length = 4)
    (hlength : ofLittleEndian word = header.length)
    (hbounds : 1 ≤ header.length ∧ header.length ≤ maximumHeader) (hrun : (do
      let (reply, count) ← ofExcept (admitReply codec method id maximumBytes header)
      readBody reply count allocates).run pipe = (result, pipe')) (hstops : stops result = true) :
    ∃ pixels reply, pipe.Advances pipe' pixels ∧ Frame codec id word header pixels reply := by
  have hbody : ∃ reply count,
      admitReply codec method id maximumBytes header = .ok (reply, count)
        ∧ (readBody reply count allocates).run pipe = (result, pipe') := by
    cases result with
    | ok value =>
      obtain ⟨⟨reply, count⟩, mid, hoffer, hread⟩ := andThen_ok hrun
      obtain ⟨hadmitted, rfl⟩ := ofExcept_ok hoffer
      exact ⟨reply, count, hadmitted, hread⟩
    | error stop =>
      rcases andThen_error hrun with hoffer | ⟨⟨reply, count⟩, mid, hoffer, hread⟩
      · obtain ⟨error, hrefused, rfl, -⟩ := Reader.ofExcept_error hoffer
        have hother := admitReply_error hrefused
        simp [stops, hother] at hstops
      · obtain ⟨hadmitted, rfl⟩ := ofExcept_ok hoffer
        exact ⟨reply, count, hadmitted, hread⟩
  obtain ⟨reply, count, hadmitted, hread⟩ := hbody
  obtain ⟨hparse, hidentity, hversion, hcount, -⟩ := admitReply_ok hadmitted
  obtain ⟨pixels, hpixels, hadvance⟩ := readBody_advances hread hstops
  exact ⟨pixels, reply, hadvance, hword, hlength, hbounds.1, hbounds.2, hparse, hidentity,
    hversion, by rw [hcount, hpixels]⟩

theorem readReply_frame {codec : Codec} {id : Nat} {allocates : Bool} {pipe pipe' : Pipe}
    (hrun : (readReply codec method id maximumBytes allocates).run pipe = (result, pipe'))
    (hstops : stops result = true) :
    ∃ bytes, IsFrame codec id bytes ∧ pipe.Advances pipe' bytes := by
  have hparts : ∃ word header first second,
      word.length = 4 ∧ pipe.Advances first word
        ∧ (1 ≤ ofLittleEndian word ∧ ofLittleEndian word ≤ maximumHeader)
        ∧ header.length = ofLittleEndian word ∧ first.Advances second header
        ∧ (do
          let (reply, count) ← ofExcept (admitReply codec method id maximumBytes header)
          readBody reply count allocates).run second = (result, pipe') := by
    cases result with
    | ok value =>
      obtain ⟨word, first, hword, hrest⟩ := andThen_ok hrun
      obtain ⟨_, checked, hbounds, hread⟩ := andThen_ok hrest
      obtain ⟨hin, rfl⟩ := ensure_ok hbounds
      obtain ⟨header, second, hheader, hbody⟩ := andThen_ok hread
      simp only [Bool.and_eq_true, decide_eq_true_eq] at hin
      obtain ⟨hfour, hfirst⟩ := exactly_ok hword
      obtain ⟨hlength, hsecond⟩ := exactly_ok hheader
      exact ⟨word, header, _, second, hfour, hfirst, hin, hlength, hsecond, hbody⟩
    | error stop =>
      rcases andThen_error hrun with hword | ⟨word, first, hword, hrest⟩
      · obtain rfl := exactly_error hword
        exact nomatch hstops
      · rcases andThen_error hrest with hbounds | ⟨_, checked, hbounds, hread⟩
        · obtain ⟨rfl, -⟩ := ensure_error hbounds
          exact nomatch hstops
        · obtain ⟨hin, rfl⟩ := ensure_ok hbounds
          rcases andThen_error hread with hheader | ⟨header, second, hheader, hbody⟩
          · obtain rfl := exactly_error hheader
            exact nomatch hstops
          · simp only [Bool.and_eq_true, decide_eq_true_eq] at hin
            obtain ⟨hfour, hfirst⟩ := exactly_ok hword
            obtain ⟨hlength, hsecond⟩ := exactly_ok hheader
            exact ⟨word, header, _, second, hfour, hfirst, hin, hlength, hsecond, hbody⟩
  obtain ⟨word, header, first, second, hfour, hfirst, hin, hlength, hsecond, hbody⟩ := hparts
  obtain ⟨pixels, reply, hthird, hframe⟩ := readAdmitted_frame hfour hlength.symm
    (by rw [hlength]; exact hin) hbody hstops
  exact ⟨word ++ (header ++ pixels), ⟨word, header, pixels, reply, rfl, hframe⟩,
    hfirst.trans (hsecond.trans hthird)⟩

/-- What an exchange leaves behind, whatever its result. -/
structure ExchangeSpec (codec : Codec) (worker : Worker) (call : Call) (exchanged : Exchanged)
    (worker' : Worker) : Prop where
  alive : worker'.alive = worker.alive
  stream : worker.output ++ call.wire.arriving = exchanged.consumed ++ worker'.output
  silent : exchanged.dispatched = false →
    exchanged.written = [] ∧ exchanged.consumed = [] ∧ worker'.id = worker.id
  counted : exchanged.dispatched = true → worker'.id = worker.id + 1
  framed : stops exchanged.result = true →
    exchanged.dispatched = true ∧ IsFrame codec worker'.id exchanged.consumed

private theorem undispatched_spec (codec : Codec) (worker : Worker) (call : Call)
    (hother : error.isWorker = false) :
    ExchangeSpec codec worker call (undispatched error)
      { worker with output := worker.output ++ call.wire.arriving } where
  alive := rfl
  stream := rfl
  silent := fun _ => ⟨rfl, rfl, rfl⟩
  counted := fun h => nomatch h
  framed := fun h => by simp [undispatched, stops, hother] at h

private theorem receive_spec (codec : Codec) (worker : Worker) (call : Call)
    (written : List UInt8) :
    let sent := { worker with
      output := worker.output ++ call.wire.arriving
      id := worker.id + 1 }
    ExchangeSpec codec worker call (receive codec sent call written).1
      (receive codec sent call written).2 := by
  intro sent
  obtain ⟨moved, havailable, hconsumed⟩ := (readReply codec call.method sent.id
    call.maximumBytes call.wire.allocates).forward
    { available := sent.output, budget := call.wire.budget, consumed := [] }
  rw [List.nil_append] at hconsumed
  refine ⟨rfl, ?_, (fun h => nomatch h), fun _ => rfl, ?_⟩
  · simp only [receive, hconsumed]
    exact havailable
  · intro hstops
    obtain ⟨frame, hframe, -, htaken⟩ := readReply_frame rfl hstops
    rw [List.nil_append] at htaken
    have hconsumed : (receive codec sent call written).1.consumed = frame := htaken
    refine ⟨rfl, ?_⟩
    rw [hconsumed]
    exact hframe

theorem exchange_spec (codec : Codec) (worker : Worker) (call : Call) :
    ExchangeSpec codec worker call (exchange codec worker call).1
      (exchange codec worker call).2 := by
  unfold exchange
  dsimp only
  split
  · exact undispatched_spec codec worker call rfl
  · split
    · exact undispatched_spec codec worker call rfl
    · rename_i bytes _
      split
      · exact undispatched_spec codec worker call rfl
      · split
        · exact undispatched_spec codec worker call rfl
        · split
          · exact ⟨rfl, rfl, (fun h => nomatch h), fun _ => rfl, (fun h => nomatch h)⟩
          · exact receive_spec codec worker call _

theorem haltError_isWorker (call : Call) (dispatched : Bool) :
    (haltError call dispatched).isWorker = false := by
  unfold haltError
  split
  · rfl
  · rfl
  · split <;> rfl

theorem settleExchange_answers {call : Call} {exchanged : Exchanged}
    (hanswers : answers (settleExchange call exchanged) = true) :
    stops exchanged.result = true := by
  unfold settleExchange at hanswers
  split at hanswers
  · rename_i reply hresult
    rw [hresult]
    rfl
  · rename_i error hresult
    rw [hresult]
    exact hanswers
  · simp [answers, haltError_isWorker] at hanswers

theorem markUncertain_isWorker {call : Call} {dispatched : Bool}
    (hworker : (markUncertain call dispatched error).isWorker = true) : error.isWorker = true := by
  unfold markUncertain at hworker
  split at hworker
  · exact nomatch hworker
  · exact hworker

theorem markUncertain_isUncertainControl {call : Call}
    (hcontrol : isControl call.method call.params = true) :
    (markUncertain call true error).isUncertainControl = true := by
  unfold markUncertain
  cases huncertain : error.isUncertainControl with
  | true => simp [huncertain]
  | false => simp [hcontrol, Error.isUncertainControl, Error.asFailure]

structure CallSpec (codec : Codec) (worker : Worker) (call : Call) (called : Called)
    (worker' : Worker) : Prop where
  stream : worker.output ++ call.wire.arriving = called.consumed ++ worker'.output
  counted : worker'.id = if called.dispatched then worker.id + 1 else worker.id
  alive : worker'.alive = true → worker.alive = true
  silent : called.dispatched = false → called.written = [] ∧ called.consumed = []
  uncertain : ∀ error, called.outcome = .error error → called.dispatched = true →
    isControl call.method call.params = true → error.isUncertainControl = true
  answered : answers called.outcome = true →
    called.dispatched = true ∧ IsFrame codec worker'.id called.consumed
      ∧ worker'.alive = worker.alive
  refused : answers called.outcome = false →
    worker'.alive = false ∨ (called.written = [] ∧ called.consumed = [])

theorem callUntil_spec (codec : Codec) (worker : Worker) (call : Call) :
    CallSpec codec worker call (callUntil codec worker call).1 (callUntil codec worker call).2 := by
  unfold callUntil
  have hspec : ∃ exchanged worker',
      (if call.wire.cancelled then (undispatched (.failure .cancelled),
          { worker with output := worker.output ++ call.wire.arriving })
        else exchange codec worker call) = (exchanged, worker')
        ∧ ExchangeSpec codec worker call exchanged worker' := by
    split
    · exact ⟨_, _, rfl, undispatched_spec codec worker call rfl⟩
    · exact ⟨_, _, rfl, exchange_spec codec worker call⟩
  obtain ⟨exchanged, worker', heq, hspec⟩ := hspec
  rw [heq]
  dsimp only
  have hcounted : worker'.id = if exchanged.dispatched then worker.id + 1 else worker.id := by
    cases hdispatched : exchanged.dispatched with
    | true => simpa using hspec.counted hdispatched
    | false => simpa using (hspec.silent hdispatched).2.2
  have hsilent : exchanged.dispatched = false →
      exchanged.written = [] ∧ exchanged.consumed = [] := by
    intro hdispatched
    obtain ⟨hwritten, hconsumed, -⟩ := hspec.silent hdispatched
    exact ⟨hwritten, hconsumed⟩
  cases hsettled : settleExchange call exchanged with
  | ok reply =>
    have hanswers : answers (settleExchange call exchanged) = true := by
      rw [hsettled]
      rfl
    have hstops := settleExchange_answers hanswers
    obtain ⟨hdispatched, hframe⟩ := hspec.framed hstops
    exact ⟨hspec.stream, hcounted, fun h => hspec.alive ▸ h, hsilent,
      (fun _ h => nomatch h), fun _ => ⟨hdispatched, hframe, hspec.alive⟩, fun h => nomatch h⟩
  | error error =>
    dsimp only
    have hkilled : ∀ {condition : Bool},
        (if condition then worker' else kill worker').output = worker'.output
          ∧ (if condition then worker' else kill worker').id = worker'.id := by
      intro condition
      cases condition <;> exact ⟨rfl, rfl⟩
    refine ⟨?_, ?_, ?_, hsilent, ?_, ?_, ?_⟩
    · rw [hkilled.1]
      exact hspec.stream
    · rw [hkilled.2]
      exact hcounted
    · intro halive
      split at halive
      · exact hspec.alive ▸ halive
      · exact nomatch halive
    · rintro error' herror hdispatched hcontrol
      cases herror
      rw [show exchanged.dispatched = true from hdispatched]
      exact markUncertain_isUncertainControl hcontrol
    · intro hanswers
      have hworker : (markUncertain call exchanged.dispatched error).isWorker = true := hanswers
      have hsettles : answers (settleExchange call exchanged) = true := by
        rw [hsettled]
        exact markUncertain_isWorker hworker
      have hstops := settleExchange_answers hsettles
      obtain ⟨hdispatched, hframe⟩ := hspec.framed hstops
      have hkeeps : keepsWorker exchanged.dispatched
          (markUncertain call exchanged.dispatched error) = true := by
        simp [keepsWorker, hworker]
      rw [if_pos hkeeps]
      exact ⟨hdispatched, hframe, hspec.alive⟩
    · intro hrefused
      have hworker : (markUncertain call exchanged.dispatched error).isWorker = false := hrefused
      split
      · rename_i hkeeps
        right
        simp only [keepsWorker, hworker, Bool.or_false, Bool.and_eq_true,
          Bool.not_eq_true'] at hkeeps
        obtain ⟨hwritten, hconsumed, -⟩ := hspec.silent hkeeps.1
        exact ⟨hwritten, hconsumed⟩
      · exact .inl rfl

theorem CallSpec.unsent {codec : Codec} {worker' : Worker} {call : Call} {called : Called}
    (hspec : CallSpec codec worker call called worker')
    (hcontrol : isControl call.method call.params = true) (herror : called.outcome = .error error)
    (hcertain : error.isUncertainControl = false) : called.written = [] := by
  cases hdispatched : called.dispatched with
  | false => exact (hspec.silent hdispatched).1
  | true =>
    have huncertain := hspec.uncertain error herror hdispatched hcontrol
    rw [huncertain] at hcertain
    cases hcertain

abbrev WorkerStep := Transition Worker Call Called

/-- The bytes that the worker wrote and the bytes that the calls read stay in step. -/
structure InStep (codec : Codec) (run : List WorkerStep) : Prop where
  /-- No two requests share an identity. -/
  identities : ∀ before t after, run = before ++ t :: after → t.result.dispatched = true →
    ∀ earlier ∈ before, earlier.after.id < t.after.id
  answered : ∀ t ∈ run, answers t.result.outcome = true →
    IsFrame codec t.after.id t.result.consumed ∧ t.after.id = t.before.id + 1
      ∧ t.after.alive = t.before.alive
  refused : ∀ t ∈ run, answers t.result.outcome = false →
    t.after.alive = false ∨ (t.result.written = [] ∧ t.result.consumed = [])
  /-- A call on a live worker starts behind the complete frames of the answered calls. -/
  aligned : ∀ before t after, run = before ++ t :: after → t.before.alive = true →
    (before.map fun earlier => earlier.op.wire.arriving).flatten
        = (before.map fun earlier => earlier.result.consumed).flatten ++ t.before.output
      ∧ ∀ earlier ∈ before,
          (answers earlier.result.outcome = true
            ∧ IsFrame codec earlier.after.id earlier.result.consumed
            ∧ earlier.after.id ≤ t.before.id)
          ∨ (earlier.result.written = [] ∧ earlier.result.consumed = [])

variable (codec : Codec)

private theorem anything_inductive (worker : Worker) :
    (machine codec).Inductive worker (fun _ => True) :=
  ⟨trivial, fun _ _ => trivial⟩

theorem call_spec_of_mem {codec : Codec} {calls : List Call} {t : WorkerStep}
    (hmem : t ∈ (machine codec).run worker calls) :
    CallSpec codec t.before t.op t.result t.after := by
  obtain ⟨-, -, hstep⟩ := (anything_inductive codec worker).mem_run hmem
  have hspec := callUntil_spec codec t.before t.op
  rw [hstep]
  exact hspec

private theorem dead_lasting : Machine.Lasting (machine codec) (fun _ => True)
      (fun worker => worker.alive = false) := by
  intro worker call _ hdead
  cases halive : ((machine codec).next worker call).alive with
  | false => rfl
  | true => simp [(callUntil_spec codec worker call).alive halive] at hdead

private theorem id_lasting (bound : Nat) :
    Machine.Lasting (machine codec) (fun _ => True) (fun worker => bound ≤ worker.id) := by
  intro worker call _ hbound
  have hcounted : ((machine codec).next worker call).id
      = if ((callUntil codec worker call).1).dispatched then worker.id + 1 else worker.id :=
    (callUntil_spec codec worker call).counted
  rw [hcounted]
  split <;> omega

private theorem stream_split {calls : List Call} {before after : List WorkerStep} {t : WorkerStep}
    (hrun : (machine codec).run worker calls = before ++ t :: after) :
    worker.output ++ (before.map fun earlier => earlier.op.wire.arriving).flatten
      = (before.map fun earlier => earlier.result.consumed).flatten ++ t.before.output := by
  induction before generalizing worker calls with
  | nil =>
    cases calls with
    | nil => simp [Machine.run] at hrun
    | cons call calls =>
      obtain ⟨rfl, -⟩ := List.cons.inj hrun
      simp [Machine.perform]
  | cons first before ih =>
    cases calls with
    | nil => simp [Machine.run] at hrun
    | cons call calls =>
      obtain ⟨rfl, htail⟩ := List.cons.inj hrun
      have hstream := (callUntil_spec codec worker call).stream
      have hrest := ih htail
      simp only [List.map_cons, List.flatten_cons, List.append_assoc]
      rw [← hrest]
      simp only [← List.append_assoc]
      exact congrArg (· ++ _) hstream

private theorem earlier_id_le {calls : List Call} {before after : List WorkerStep} {t : WorkerStep}
    (hrun : (machine codec).run worker calls = before ++ t :: after) :
    ∀ earlier ∈ before, earlier.after.id ≤ t.before.id := by
  intro earlier hmem
  have habsent := (id_lasting codec earlier.after.id).absent_earlier
    (anything_inductive codec worker) hrun
  by_cases hle : earlier.after.id ≤ t.before.id
  · exact hle
  · exact absurd (Nat.le_refl _) (habsent hle earlier hmem)

/-- Every run of calls on a freshly spawned worker keeps its pipes in step. -/
theorem run_inStep (calls : List Call) :
    InStep codec ((machine codec).run spawned calls) where
  identities := by
    intro before t after hrun hdispatched earlier hmem
    have hmem' : t ∈ (machine codec).run spawned calls := by simp [hrun]
    have hcounted := (call_spec_of_mem hmem').counted
    rw [if_pos hdispatched] at hcounted
    have hle := earlier_id_le codec hrun earlier hmem
    omega
  answered := by
    intro t hmem hanswers
    have hspec := call_spec_of_mem hmem
    obtain ⟨hdispatched, hframe, halive⟩ := hspec.answered hanswers
    have hcounted := hspec.counted
    rw [if_pos hdispatched] at hcounted
    exact ⟨hframe, hcounted, halive⟩
  refused := by
    intro t hmem hrefused
    exact (call_spec_of_mem hmem).refused hrefused
  aligned := by
    intro before t after hrun halive
    refine ⟨by simpa [spawned] using stream_split codec hrun, ?_⟩
    have hlive := (dead_lasting codec).absent_earlier (anything_inductive codec _) hrun
      (by simp [halive])
    intro earlier hmem
    have hmem' : earlier ∈ (machine codec).run spawned calls := by
      rw [hrun]
      exact List.mem_append_left _ hmem
    have hspec := call_spec_of_mem hmem'
    cases hanswers : answers earlier.result.outcome with
    | true =>
      exact .inl ⟨rfl, (hspec.answered hanswers).2.1, earlier_id_le codec hrun earlier hmem⟩
    | false =>
      rcases hspec.refused hanswers with hkilled | hsilent
      · exact absurd hkilled (hlive earlier hmem)
      · exact .inr hsilent

end Regain.Core
