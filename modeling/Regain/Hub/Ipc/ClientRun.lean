import Mathlib.Data.List.Nodup
import Regain.Hub.Ipc.Client

/-!
# Runs of the client

A call that waits for its outcome is in the queue or pending, once, and holds one permit there.
Frames are written one after the other for calls that left the queue, so at most the last one is
incomplete.
-/

namespace Regain.Hub

open Lib

namespace Ipc

variable {Fields Value : Type}

def ClientError.isRemote : ClientError → Bool
  | .remote _ => true
  | _ => false

def ClientError.isUncertain : ClientError → Bool
  | .uncertain => true
  | _ => false

def isReply : Outcome Value → Bool
  | .ok _ => true
  | .error error => error.isRemote

def Stage.isSelecting : Stage → Bool
  | .selecting => true
  | _ => false

def Stage.isOver : Stage → Bool
  | .closing _ => true
  | .draining => true
  | .ended => true
  | _ => false

def Stage.isDone : Stage → Bool
  | .draining => true
  | .ended => true
  | _ => false

/-! ## Errors and replies -/

variable {codec : Codec Fields Value}

theorem decode_error {bytes : List UInt8} {error : ClientError}
    (hdecode : decode codec bytes = .error error) : error = .protocol := by
  unfold decode at hdecode
  split at hdecode
  · cases hdecode
    rfl
  · split at hdecode
    · cases hdecode
      rfl
    · split at hdecode
      · cases hdecode
      · split at hdecode
        · cases hdecode
          rfl
        · split at hdecode
          · cases hdecode
            rfl
          · cases hdecode
      · cases hdecode
        rfl

theorem decode_reply {bytes : List UInt8} {id : Nat}
    {outcome : Outcome Value} (hdecode : decode codec bytes = .ok (id, outcome)) :
    isReply outcome = true := by
  unfold decode at hdecode
  split at hdecode
  · cases hdecode
  · split at hdecode
    · cases hdecode
    · split at hdecode
      · cases hdecode
        rfl
      · split at hdecode
        · cases hdecode
        · split at hdecode
          · cases hdecode
          · cases hdecode
            rfl
      · cases hdecode

theorem encode_error {id : Nat} {command : Command Fields}
    {limit : Nat} {error : ClientError} (hencode : encode codec id command limit = .error error) :
    error = .invalidRequest := by
  unfold encode at hencode
  split at hencode
  · cases hencode
    rfl
  · split at hencode <;> cases hencode
    rfl

theorem perm_remove {β : Type} {list : List (Nat × β)} (hnodup : (list.map Prod.fst).Nodup)
    {entry : Nat × β} (hmem : entry ∈ list) :
    list.Perm (entry :: list.filter fun other => other.1 != entry.1) := by
  induction list with
  | nil => cases hmem
  | cons first rest ih =>
    rw [List.map_cons, List.nodup_cons] at hnodup
    obtain ⟨hfresh, hrest⟩ := hnodup
    by_cases hfirst : first.1 = entry.1
    · have heq : entry = first := by
        rcases List.mem_cons.mp hmem with heq | hlater
        · exact heq
        · exact absurd (hfirst ▸ List.mem_map_of_mem hlater) hfresh
      subst heq
      have hsame : (rest.filter fun other => other.1 != entry.1) = rest := by
        rw [List.filter_eq_self]
        intro other hother
        have hne : other.1 ≠ entry.1 := fun heq => hfresh (heq ▸ List.mem_map_of_mem hother)
        simpa using hne
      simp [hsame]
    · have hlater : entry ∈ rest := by
        rcases List.mem_cons.mp hmem with heq | hlater
        · exact absurd (by rw [heq]) hfirst
        · exact hlater
      have hkeep : ((first :: rest).filter fun other => other.1 != entry.1)
          = first :: rest.filter fun other => other.1 != entry.1 := by
        simp [hfirst]
      rw [hkeep]
      exact ((ih hrest hlater).cons first).trans (List.Perm.swap entry first _)

namespace Client

/-! ## The calls in flight -/

variable (codec : Codec Fields Value) (limits : Limits)

def waiting (client : Client Fields Value) : List (Bool × Nat) :=
  client.queuedCalls ++ client.pendingCalls

/-- What holds while the pump has these other calls in its hands. -/
structure Held (extra : List (Bool × Nat)) (client : Client Fields Value) : Prop where
  permits : client.capacity + (client.waiting ++ extra).length = limits.maxInFlight
  distinct : ((client.waiting ++ extra).map Prod.snd).Nodup
  waits : ∀ entry ∈ client.waiting ++ extra, ∃ call, client.calls[entry.2]? = some call
    ∧ call.outcome = none ∧ entry.1 = mutating call.command.kind
  kept : ∀ (index : Nat) (call : Call Fields Value), client.calls[index]? = some call →
    call.outcome = none → call.dropped = false → ∃ entry ∈ client.waiting ++ extra, entry.2 = index
  unsent : ∀ request ∈ client.queue, ∀ frame ∈ client.frames, frame.call ≠ request.reply
  commands : ∀ request ∈ client.queue, ∃ call, client.calls[request.reply]? = some call
    ∧ call.command = request.command
  ids : (client.pending.map Prod.fst).Nodup
  sent : ∀ entry ∈ client.pending, ∃ frame ∈ client.frames, frame.id = entry.1
    ∧ frame.call = entry.2.reply
  bounds : ∀ frame ∈ client.frames, 2 ≤ frame.id ∧ frame.id < client.nextId
  first : 2 ≤ client.nextId
  order : client.frames.Pairwise fun frame later => frame.id < later.id ∧ frame.call ≠ later.call
  content : ∀ frame ∈ client.frames, ∃ call bytes, client.calls[frame.call]? = some call
    ∧ encode codec frame.id call.command limits.maxFrame = .ok bytes
    ∧ frame.bytes = header bytes ++ bytes
  written : ∀ frame ∈ client.frames, frame.written ≤ frame.bytes.length
  whole : ∀ frame ∈ client.frames.dropLast, frame.written = frame.bytes.length
  idle : client.stage.isSelecting = true → ∀ frame ∈ client.frames,
    frame.written = frame.bytes.length
  told : ∀ (index : Nat) (call : Call Fields Value) (error : ClientError),
    client.calls[index]? = some call → call.outcome = some (.error error) →
    error.isRemote = false → mutating call.command.kind = true →
    error.isUncertain = true ∨ ∀ frame ∈ client.frames, frame.call ≠ index
  answered : ∀ (index : Nat) (call : Call Fields Value) (outcome : Outcome Value),
    client.calls[index]? = some call → call.outcome = some outcome → isReply outcome = true →
    ∃ frame ∈ client.frames, frame.call = index ∧ frame.written = frame.bytes.length
  plain : ∀ failure, client.stage = .closing failure → failure.isRemote = false
  done : client.stage.isDone = true → client.pending = [] ∧ client.closed = true
  ended : client.stage = .ended → client.queue = []

structure Steps (before after : Client Fields Value) : Prop where
  calls : ∀ (index : Nat) (call : Call Fields Value), before.calls[index]? = some call →
    ∃ call', after.calls[index]? = some call' ∧ call'.command = call.command
      ∧ ∀ outcome, call.outcome = some outcome → call'.outcome = some outcome
  frames : ∀ (index : Nat) (frame : Frame), before.frames[index]? = some frame →
    ∃ frame', after.frames[index]? = some frame' ∧ frame'.call = frame.call
      ∧ frame'.id = frame.id ∧ frame'.bytes = frame.bytes ∧ frame.written ≤ frame'.written
  silent : before.stage.isOver = true → after.stage.isOver = true ∧ after.frames = before.frames

variable {codec limits} {client : Client Fields Value} {extra : List (Bool × Nat)}

theorem Steps.still {before after : Client Fields Value} (hcalls : after.calls = before.calls)
    (hframes : after.frames = before.frames)
    (hstage : before.stage.isOver = true → after.stage.isOver = true) : Steps before after where
  calls := fun index call hsome => ⟨call, by rw [hcalls]; exact hsome, rfl, fun _ => id⟩
  frames := fun index frame hsome =>
    ⟨frame, by rw [hframes]; exact hsome, rfl, rfl, rfl, Nat.le_refl _⟩
  silent := fun hover => ⟨hstage hover, hframes⟩

theorem Steps.refl (client : Client Fields Value) : Steps client client :=
  .still rfl rfl id

theorem Steps.trans {first second third : Client Fields Value} (h : Steps first second)
    (h' : Steps second third) : Steps first third where
  calls := by
    intro index call hsome
    obtain ⟨next, hnext, hcommand, houtcome⟩ := h.calls index call hsome
    obtain ⟨last, hlast, hcommand', houtcome'⟩ := h'.calls index next hnext
    exact ⟨last, hlast, hcommand'.trans hcommand, fun outcome hsome =>
      houtcome' outcome (houtcome outcome hsome)⟩
  frames := by
    intro index frame hsome
    obtain ⟨next, hnext, hcall, hid, hbytes, hle⟩ := h.frames index frame hsome
    obtain ⟨last, hlast, hcall', hid', hbytes', hle'⟩ := h'.frames index next hnext
    exact ⟨last, hlast, hcall'.trans hcall, hid'.trans hid, hbytes'.trans hbytes,
      Nat.le_trans hle hle'⟩
  silent := by
    intro hover
    obtain ⟨hover', hframes⟩ := h.silent hover
    obtain ⟨hover'', hframes'⟩ := h'.silent hover'
    exact ⟨hover'', hframes'.trans hframes⟩

theorem Held.regroup (h : Held codec limits extra client) {after : Client Fields Value}
    {extra' : List (Bool × Nat)} (hcalls : after.calls = client.calls)
    (hframes : after.frames = client.frames) (hnext : after.nextId = client.nextId)
    (hcapacity : after.capacity = client.capacity)
    (hperm : (client.waiting ++ extra).Perm (after.waiting ++ extra'))
    (hqueue : ∀ request ∈ after.queue, request ∈ client.queue)
    (hpending : after.pending.Sublist client.pending)
    (hidle : after.stage.isSelecting = true → client.stage.isSelecting = true)
    (hplain : ∀ failure, after.stage = .closing failure → failure.isRemote = false)
    (hdone : after.stage.isDone = true → after.pending = [] ∧ after.closed = true)
    (hended : after.stage = .ended → after.queue = []) : Held codec limits extra' after := by
  constructor
  case permits =>
    rw [hcapacity, ← hperm.length_eq]
    exact h.permits
  case distinct => exact (hperm.map Prod.snd).nodup h.distinct
  case waits =>
    rw [hcalls]
    exact fun entry hmem => h.waits entry (hperm.mem_iff.mpr hmem)
  case kept =>
    rw [hcalls]
    intro index call hsome hnone hdropped
    obtain ⟨entry, hmem, hentry⟩ := h.kept index call hsome hnone hdropped
    exact ⟨entry, hperm.mem_iff.mp hmem, hentry⟩
  case unsent =>
    rw [hframes]
    exact fun request hmem => h.unsent request (hqueue request hmem)
  case commands =>
    rw [hcalls]
    exact fun request hmem => h.commands request (hqueue request hmem)
  case ids => exact (hpending.map Prod.fst).nodup h.ids
  case sent =>
    rw [hframes]
    exact fun entry hmem => h.sent entry (hpending.subset hmem)
  case bounds =>
    rw [hframes, hnext]
    exact h.bounds
  case first =>
    rw [hnext]
    exact h.first
  case order =>
    rw [hframes]
    exact h.order
  case content =>
    rw [hframes, hcalls]
    exact h.content
  case written =>
    rw [hframes]
    exact h.written
  case whole =>
    rw [hframes]
    exact h.whole
  case idle =>
    rw [hframes]
    exact fun hselecting => h.idle (hidle hselecting)
  case told =>
    rw [hcalls, hframes]
    exact h.told
  case answered =>
    rw [hcalls, hframes]
    exact h.answered
  case plain => exact hplain
  case done => exact hdone
  case ended => exact hended

theorem Held.enter (h : Held codec limits extra client) {stage : Stage}
    (hidle : stage.isSelecting = true → client.stage.isSelecting = true)
    (hplain : ∀ failure, stage = .closing failure → failure.isRemote = false)
    (hdone : stage.isDone = false) : Held codec limits extra (client.enter stage) := by
  refine h.regroup rfl rfl rfl rfl (List.Perm.refl _) (fun _ => id) (List.Sublist.refl _) hidle
    hplain ?_ ?_
  · intro hdone'
    change stage.isDone = true at hdone'
    rw [hdone] at hdone'
    cases hdone'
  · intro hended
    change stage = .ended at hended
    rw [hended] at hdone
    cases hdone

theorem Held.fail (h : Held codec limits extra client) {failure : ClientError}
    (hfailure : failure.isRemote = false) :
    Held codec limits extra (client.fail failure) ∧ Steps client (client.fail failure) := by
  refine ⟨h.enter (fun hselecting => by cases hselecting) ?_ rfl, .still rfl rfl fun _ => rfl⟩
  intro found hfound
  cases hfound
  exact hfailure

variable {index : Nat} {entry : Bool × Nat}

variable {outcome : Outcome Value}

theorem getElem?_send {other : Nat} :
    (client.send index outcome).calls[other]?
      = (client.calls[other]?).map fun call =>
        if index = other then
          if call.dropped || call.outcome.isSome then call else { call with outcome := some outcome }
        else call := by
  simp only [send, List.getElem?_modify, Option.map_eq_map]

theorem send_calls {other : Nat} {call' : Call Fields Value}
    (hsome : (client.send index outcome).calls[other]? = some call') :
    ∃ call, client.calls[other]? = some call ∧ call'.command = call.command
      ∧ call'.dropped = call.dropped ∧ (call'.outcome = call.outcome
          ∨ index = other ∧ call.outcome = none ∧ call'.outcome = some outcome) := by
  rw [getElem?_send, Option.map_eq_some_iff] at hsome
  obtain ⟨call, hcall, rfl⟩ := hsome
  refine ⟨call, hcall, ?_⟩
  split
  · next hindex =>
    split
    · exact ⟨rfl, rfl, .inl rfl⟩
    · next hopen =>
      have hnone : call.outcome = none := by
        cases houtcome : call.outcome with
        | none => rfl
        | some found => simp [houtcome] at hopen
      exact ⟨rfl, rfl, .inr ⟨hindex, hnone, rfl⟩⟩
  · exact ⟨rfl, rfl, .inl rfl⟩

theorem send_steps (client : Client Fields Value) (index : Nat) (outcome : Outcome Value) :
    Steps client ((client.send index outcome).release) where
  calls := by
    intro other call hsome
    refine ⟨_, by rw [show ((client.send index outcome).release).calls[other]? = _ from
      getElem?_send, hsome]; rfl, ?_⟩
    split
    · dsimp only
      split
      · exact ⟨rfl, fun _ => id⟩
      · next hopen =>
        refine ⟨rfl, fun found hfound => ?_⟩
        simp [hfound] at hopen
    · exact ⟨rfl, fun _ => id⟩
  frames := fun _ frame hsome => ⟨frame, hsome, rfl, rfl, rfl, Nat.le_refl _⟩
  silent := fun hover => ⟨hover, rfl⟩

/-! ## The dispatch -/

theorem Held.head_fresh (h : Held codec limits (entry :: extra) client) :
    ∀ other ∈ client.waiting ++ extra, other.2 ≠ entry.2 := by
  have hperm : (client.waiting ++ entry :: extra).Perm (entry :: (client.waiting ++ extra)) :=
    List.perm_middle
  have hnodup := (hperm.map Prod.snd).nodup h.distinct
  rw [List.map_cons, List.nodup_cons] at hnodup
  intro other hmem heq
  exact hnodup.1 (heq ▸ List.mem_map_of_mem hmem)

theorem Held.mem_extra {other : Bool × Nat} (hmem : other ∈ client.waiting ++ extra) :
    other ∈ client.waiting ++ entry :: extra := by
  rcases List.mem_append.mp hmem with hleft | hright
  · exact List.mem_append_left _ hleft
  · exact List.mem_append_right _ (List.mem_cons_of_mem _ hright)

theorem Held.head_waits (h : Held codec limits (entry :: extra) client) :
    ∃ call, client.calls[entry.2]? = some call ∧ call.outcome = none
      ∧ entry.1 = mutating call.command.kind :=
  h.waits entry (List.mem_append_right _ (List.mem_cons_self))

theorem Held.head_permits (h : Held codec limits (entry :: extra) client) :
    client.capacity + 1 + (client.waiting ++ extra).length = limits.maxInFlight := by
  have hpermits := h.permits
  simp only [List.length_append, List.length_cons] at hpermits ⊢
  omega

theorem Held.settle {entry : Bool × Nat} (h : Held codec limits (entry :: extra) client)
    (outcome : Outcome Value)
    (htold : ∀ error, outcome = .error error → error.isRemote = false → entry.1 = true →
      error.isUncertain = true ∨ ∀ frame ∈ client.frames, frame.call ≠ entry.2)
    (hanswered : isReply outcome = true →
      ∃ frame ∈ client.frames, frame.call = entry.2 ∧ frame.written = frame.bytes.length) :
    Held codec limits extra ((client.send entry.2 outcome).release)
      ∧ Steps client ((client.send entry.2 outcome).release) := by
  refine ⟨?_, send_steps client entry.2 outcome⟩
  have hsteps := send_steps client entry.2 outcome
  have hfresh := h.head_fresh
  obtain ⟨old, hold, hopen, hmutate⟩ := h.head_waits
  refine { h with
      permits := ?permits, distinct := ?distinct, waits := ?waits, kept := ?kept,
      commands := ?commands, content := ?content, told := ?told, answered := ?answered }
  case permits => exact h.head_permits
  case distinct =>
    have hperm : (client.waiting ++ entry :: extra).Perm (entry :: (client.waiting ++ extra)) :=
      List.perm_middle
    have hnodup := (hperm.map Prod.snd).nodup h.distinct
    rw [List.map_cons, List.nodup_cons] at hnodup
    exact hnodup.2
  case waits =>
    intro other hmem
    obtain ⟨call, hcall, hnone, hkind⟩ := h.waits other (Held.mem_extra hmem)
    refine ⟨call, ?_, hnone, hkind⟩
    change (client.send entry.2 outcome).calls[other.2]? = some call
    rw [getElem?_send, hcall, Option.map_some, if_neg fun heq => hfresh other hmem heq.symm]
  case kept =>
    intro index call' hsome hnone hdropped
    obtain ⟨call, hcall, -, hdropped', hsame | ⟨-, -, hanswer⟩⟩ := send_calls hsome
    · rw [hsame] at hnone
      rw [hdropped'] at hdropped
      obtain ⟨other, hmem, hother⟩ := h.kept index call hcall hnone hdropped
      refine ⟨other, ?_, hother⟩
      rcases List.mem_append.mp hmem with hleft | hright
      · exact List.mem_append_left _ hleft
      · rcases List.mem_cons.mp hright with heq | hlater
        · -- the call would have been answered
          subst heq
          rw [hother] at hold
          change (client.send other.2 outcome).calls[index]? = some call' at hsome
          rw [getElem?_send, hcall, Option.map_some, if_pos hother, hdropped, hnone] at hsome
          rw [if_neg (by simp)] at hsome
          cases hsome
          cases hsame.trans hnone
        · exact List.mem_append_right _ hlater
    · rw [hanswer] at hnone
      cases hnone
  case commands =>
    intro request hmem
    obtain ⟨call, hcall, hcommand⟩ := h.commands request hmem
    obtain ⟨call', hcall', hcommand', -⟩ := hsteps.calls _ call hcall
    exact ⟨call', hcall', hcommand'.trans hcommand⟩
  case content =>
    intro frame hmem
    obtain ⟨call, bytes, hcall, hencode, hbytes⟩ := h.content frame hmem
    obtain ⟨call', hcall', hcommand', -⟩ := hsteps.calls _ call hcall
    exact ⟨call', bytes, hcall', by rw [hcommand']; exact hencode, hbytes⟩
  case told =>
    intro index call' error hsome herror hremote hkind
    obtain ⟨call, hcall, hcommand, -, hsame | ⟨hindex, -, hanswer⟩⟩ := send_calls hsome
    · rw [hsame] at herror
      rw [hcommand] at hkind
      exact h.told index call error hcall herror hremote hkind
    · rw [hanswer] at herror
      subst hindex
      rw [hold] at hcall
      cases hcall
      rw [hcommand, ← hmutate] at hkind
      exact htold error (Option.some.inj herror) hremote hkind
  case answered =>
    intro index call' found hsome hfound hreply
    obtain ⟨call, hcall, -, -, hsame | ⟨hindex, -, hanswer⟩⟩ := send_calls hsome
    · rw [hsame] at hfound
      exact h.answered index call found hcall hfound hreply
    · rw [hanswer] at hfound
      cases hfound
      subst hindex
      exact hanswered hreply

theorem Held.refuse {entry : Bool × Nat} (h : Held codec limits (entry :: extra) client)
    (error : ClientError) (hremote : error.isRemote = false)
    (htold : entry.1 = true → error.isUncertain = true
      ∨ ∀ frame ∈ client.frames, frame.call ≠ entry.2) :
    Held codec limits extra (client.refuse entry.2 error)
      ∧ Steps client (client.refuse entry.2 error) := by
  refine h.settle (.error error) ?_ ?_
  · intro found hfound _ hkind
    cases hfound
    exact htold hkind
  · intro hreply
    change error.isRemote = true at hreply
    rw [hremote] at hreply
    cases hreply

theorem Held.discard (h : Held codec limits (entry :: extra) client)
    (hclosed : client.isClosed entry.2 = true) :
    Held codec limits extra client.release ∧ Steps client client.release := by
  refine ⟨?_, .still rfl rfl id⟩
  have hperm : (client.waiting ++ entry :: extra).Perm (entry :: (client.waiting ++ extra)) :=
    List.perm_middle
  have hnodup := (hperm.map Prod.snd).nodup h.distinct
  rw [List.map_cons, List.nodup_cons] at hnodup
  refine { h with permits := ?permits, distinct := ?distinct, waits := ?waits, kept := ?kept }
  case permits => exact h.head_permits
  case distinct => exact hnodup.2
  case waits => exact fun other hmem => h.waits other (Held.mem_extra hmem)
  case kept =>
    intro index call hsome hnone hdropped
    obtain ⟨other, hmem, hother⟩ := h.kept index call hsome hnone hdropped
    refine ⟨other, ?_, hother⟩
    rcases List.mem_append.mp hmem with hleft | hright
    · exact List.mem_append_left _ hleft
    · rcases List.mem_cons.mp hright with heq | hlater
      · subst heq
        unfold isClosed at hclosed
        change client.calls[index]? = some call at hsome
        rw [hother, hsome] at hclosed
        change call.dropped = true at hclosed
        rw [hdropped] at hclosed
        cases hclosed
      · exact List.mem_append_right _ hlater

theorem Held.answerAll {failure : ClientError} (hfailure : failure.isRemote = false)
    {calls : List (Bool × Nat)} (h : Held codec limits calls client) :
    Held codec limits [] (Client.answerAll failure client calls)
      ∧ Steps client (Client.answerAll failure client calls) := by
  induction calls generalizing client with
  | nil => exact ⟨h, .refl client⟩
  | cons entry rest ih =>
    obtain ⟨mutate, call⟩ := entry
    have hremote : (ending failure mutate).isRemote = false := by
      cases mutate
      · exact hfailure
      · rfl
    have htold : mutate = true → (ending failure mutate).isUncertain = true
        ∨ ∀ frame ∈ client.frames, frame.call ≠ call := by
      intro hmutate
      rw [hmutate]
      exact .inl rfl
    obtain ⟨hheld, hsteps⟩ := h.refuse _ hremote htold
    obtain ⟨hrest, hsteps'⟩ := ih hheld
    exact ⟨hrest, hsteps.trans hsteps'⟩

theorem Held.number (h : Held codec limits extra client) :
    Held codec limits extra { client with nextId := client.nextId + 1 } := { h with
  bounds := fun frame hmem =>
    ⟨(h.bounds frame hmem).1, Nat.lt_succ_of_lt (h.bounds frame hmem).2⟩
  first := Nat.le_succ_of_le h.first }

variable {request : Incoming Fields}

theorem Held.dispatch (h : Held codec limits [(request.mutate, request.reply)] client)
    (hselecting : client.stage = .selecting)
    (hunsent : ∀ frame ∈ client.frames, frame.call ≠ request.reply)
    (hcommand : ∃ call, client.calls[request.reply]? = some call ∧ call.command = request.command)
    {bytes : List UInt8}
    (hencode : encode codec client.nextId request.command limits.maxFrame = .ok bytes) :
    Held codec limits []
        (({ client with nextId := client.nextId + 1 }).dispatch limits client.nextId request bytes)
      ∧ Steps client
        (({ client with nextId := client.nextId + 1 }).dispatch limits client.nextId request bytes) := by
  have hwaiting : (({ client with nextId := client.nextId + 1 }).dispatch limits client.nextId request
      bytes).waiting ++ [] = client.waiting ++ [(request.mutate, request.reply)] := by
    simp [waiting, queuedCalls, pendingCalls, Client.dispatch]
  have hfull : ∀ frame ∈ client.frames, frame.written = frame.bytes.length :=
    h.idle (by rw [hselecting]; rfl)
  constructor
  · constructor
    case permits =>
      rw [hwaiting]
      exact h.permits
    case distinct =>
      rw [hwaiting]
      exact h.distinct
    case waits =>
      rw [hwaiting]
      exact h.waits
    case kept =>
      rw [hwaiting]
      exact h.kept
    case unsent =>
      intro other hmem frame hframe
      rcases List.mem_append.mp hframe with hold | hnew
      · exact h.unsent other hmem frame hold
      · rw [List.mem_singleton.mp hnew]
        have hfresh := h.head_fresh (other.mutate, other.reply)
          (by simpa [waiting, queuedCalls] using .inl ⟨other, hmem, rfl, rfl⟩)
        exact fun heq => hfresh heq.symm
    case commands => exact h.commands
    case ids =>
      change ((client.pending ++ [_]).map Prod.fst).Nodup
      rw [List.map_append, List.nodup_append]
      refine ⟨h.ids, by simp, ?_⟩
      intro id hid id' hid' heq
      rw [List.map_singleton, List.mem_singleton] at hid'
      obtain ⟨entry, hentry, rfl⟩ := List.mem_map.mp hid
      obtain ⟨frame, hframe, hsame, -⟩ := h.sent entry hentry
      have hlt := (h.bounds frame hframe).2
      rw [hsame, heq, hid'] at hlt
      exact Nat.lt_irrefl _ hlt
    case sent =>
      intro entry hmem
      rcases List.mem_append.mp hmem with hold | hnew
      · obtain ⟨frame, hframe, hid, hcall⟩ := h.sent entry hold
        exact ⟨frame, List.mem_append_left _ hframe, hid, hcall⟩
      · rw [List.mem_singleton.mp hnew]
        exact ⟨_, List.mem_append_right _ (List.mem_singleton_self _), rfl, rfl⟩
    case bounds =>
      intro frame hmem
      rcases List.mem_append.mp hmem with hold | hnew
      · exact ⟨(h.bounds frame hold).1, Nat.lt_succ_of_lt (h.bounds frame hold).2⟩
      · rw [List.mem_singleton.mp hnew]
        exact ⟨h.first, Nat.lt_succ_self _⟩
    case first => exact Nat.le_succ_of_le h.first
    case order =>
      refine List.pairwise_append.mpr ⟨h.order, List.pairwise_singleton _ _, ?_⟩
      intro frame hframe later hlater
      rw [List.mem_singleton.mp hlater]
      exact ⟨(h.bounds frame hframe).2, hunsent frame hframe⟩
    case content =>
      intro frame hmem
      rcases List.mem_append.mp hmem with hold | hnew
      · exact h.content frame hold
      · rw [List.mem_singleton.mp hnew]
        obtain ⟨call, hcall, hsame⟩ := hcommand
        exact ⟨call, bytes, hcall, by rw [hsame]; exact hencode, rfl⟩
    case written =>
      intro frame hmem
      rcases List.mem_append.mp hmem with hold | hnew
      · exact h.written frame hold
      · rw [List.mem_singleton.mp hnew]
        exact Nat.zero_le _
    case whole =>
      intro frame hmem
      change frame ∈ (client.frames ++ [_]).dropLast at hmem
      rw [List.dropLast_concat] at hmem
      exact hfull frame hmem
    case idle => exact fun hidle => by cases hidle
    case told =>
      intro index call error hcall herror hremote hkind
      refine (h.told index call error hcall herror hremote hkind).imp id fun hnone frame hmem => ?_
      rcases List.mem_append.mp hmem with hold | hnew
      · exact hnone frame hold
      · rw [List.mem_singleton.mp hnew]
        intro heq
        obtain ⟨found, hfound, hopen, -⟩ := h.head_waits
        change client.calls[request.reply]? = some found at hfound
        change request.reply = index at heq
        rw [heq] at hfound
        change client.calls[index]? = some call at hcall
        rw [hcall] at hfound
        cases hfound
        rw [hopen] at herror
        cases herror
    case answered =>
      intro index call outcome hcall houtcome hreply
      obtain ⟨frame, hframe, hfound⟩ := h.answered index call outcome hcall houtcome hreply
      exact ⟨frame, List.mem_append_left _ hframe, hfound⟩
    case plain => exact fun failure hfailure => by cases hfailure
    case done => exact fun hdone => by cases hdone
    case ended => exact fun hended => by cases hended
  · constructor
    case calls => exact fun _ call hsome => ⟨call, hsome, rfl, fun _ => id⟩
    case frames =>
      intro index frame hsome
      refine ⟨frame, ?_, rfl, rfl, rfl, Nat.le_refl _⟩
      change (client.frames ++ [_])[index]? = some frame
      rw [List.getElem?_append_left (List.getElem?_eq_some_iff.mp hsome).1]
      exact hsome
    case silent =>
      rw [hselecting]
      exact fun hover => by cases hover

theorem take_held (h : Held codec limits [(request.mutate, request.reply)] client)
    (hselecting : client.stage = .selecting)
    (hunsent : ∀ frame ∈ client.frames, frame.call ≠ request.reply)
    (hcommand : ∃ call, client.calls[request.reply]? = some call ∧ call.command = request.command) :
    Held codec limits [] (client.take codec limits request)
      ∧ Steps client (client.take codec limits request) := by
  unfold take
  split
  · next hclosed => exact h.discard hclosed
  · split
    · exact h.refuse _ rfl fun _ => .inr hunsent
    · split
      · obtain ⟨hheld, hsteps⟩ := h.refuse .disconnected rfl fun _ => .inr hunsent
        obtain ⟨hfailed, hsteps'⟩ := hheld.fail (show ClientError.protocol.isRemote = false from rfl)
        exact ⟨hfailed, hsteps.trans hsteps'⟩
      · dsimp only
        split
        · next error hencode =>
          have herror := encode_error hencode
          have hnumber : Steps client { client with nextId := client.nextId + 1 } :=
            .still rfl rfl id
          obtain ⟨hheld, hsteps⟩ := h.number.refuse error (by rw [herror]; rfl)
            fun _ => .inr hunsent
          exact ⟨hheld, hnumber.trans hsteps⟩
        · next bytes hencode => exact h.dispatch hselecting hunsent hcommand hencode

theorem reply_held (h : Held codec limits [] client) (hselecting : client.stage = .selecting)
    (bytes : List UInt8) :
    Held codec limits [] (client.reply codec bytes) ∧ Steps client (client.reply codec bytes) := by
  unfold reply
  split
  · next error hdecode =>
    exact h.fail (by rw [decode_error hdecode]; rfl)
  · next id outcome hdecode =>
    split
    · exact h.fail rfl
    · next entry hfind =>
      have hmem := List.mem_of_find?_eq_some hfind
      have hid : entry.1 = id := by simpa using List.find?_some hfind
      subst hid
      have hperm := perm_remove h.ids hmem
      have hmoved : Held codec limits [(entry.2.mutate, entry.2.reply)] (client.remove entry.1) := by
        refine h.regroup rfl rfl rfl rfl ?_ (fun _ => id) List.filter_sublist id h.plain ?_ h.ended
        · have hcalls := hperm.map fun entry => (entry.2.mutate, entry.2.reply)
          rw [List.map_cons] at hcalls
          have hqueue := hcalls.append_left client.queuedCalls
          rw [List.append_nil]
          refine hqueue.trans ?_
          exact (List.perm_middle).trans (List.perm_append_singleton _ _).symm
        · intro hdone
          rw [show (client.remove entry.1).stage = .selecting from hselecting] at hdone
          cases hdone
      obtain ⟨frame, hframe, -, hcall⟩ := h.sent entry hmem
      have hfull := h.idle (by rw [hselecting]; rfl) frame hframe
      obtain ⟨hheld, hsteps⟩ := hmoved.settle outcome (fun error herror hremote => by
        have hreply := decode_reply hdecode
        rw [herror] at hreply
        change error.isRemote = true at hreply
        rw [hremote] at hreply
        cases hreply) fun _ => ⟨frame, hframe, hcall, hfull⟩
      have hremoved : Steps client (client.remove entry.1) := .still rfl rfl id
      exact ⟨hheld, hremoved.trans hsteps⟩

/-! ## The pump -/

theorem receive_held (h : Held codec limits [] client) (hselecting : client.stage = .selecting)
    (frame : Option (Except ProtocolError (Option (List UInt8)))) :
    Held codec limits [] (client.receive codec limits frame)
      ∧ Steps client (client.receive codec limits frame) := by
  unfold receive
  split
  · split
    · exact reply_held h hselecting _
    · exact h.fail rfl
  all_goals exact h.fail rfl

theorem getElem?_advance {count : Nat} :
    (client.advance count).frames[index]? = (client.frames[index]?).map fun frame =>
      if client.frames.length - 1 = index then
        { frame with written := min frame.bytes.length (frame.written + count) }
      else frame := by
  simp only [advance, List.getElem?_modify, Option.map_eq_map]

theorem advance_frame (h : Held codec limits extra client) {count : Nat} {frame' : Frame}
    (hsome : (client.advance count).frames[index]? = some frame') :
    ∃ frame, client.frames[index]? = some frame ∧ frame'.call = frame.call
      ∧ frame'.id = frame.id ∧ frame'.bytes = frame.bytes ∧ frame.written ≤ frame'.written
      ∧ frame'.written ≤ frame.bytes.length := by
  rw [getElem?_advance, Option.map_eq_some_iff] at hsome
  obtain ⟨frame, hframe, rfl⟩ := hsome
  have hle := h.written frame (List.mem_of_getElem? hframe)
  refine ⟨frame, hframe, ?_⟩
  split
  · refine ⟨rfl, rfl, rfl, ?_, Nat.min_le_left _ _⟩
    dsimp only
    omega
  · exact ⟨rfl, rfl, rfl, Nat.le_refl _, hle⟩

theorem advance_steps (h : Held codec limits extra client) (count : Nat)
    (hover : client.stage.isOver = false) : Steps client (client.advance count) where
  calls := fun _ call hsome => ⟨call, hsome, rfl, fun _ => id⟩
  frames := by
    intro index frame hsome
    have hafter : ∃ frame', (client.advance count).frames[index]? = some frame' := by
      rw [getElem?_advance, hsome]
      exact ⟨_, rfl⟩
    obtain ⟨frame', hframe'⟩ := hafter
    obtain ⟨found, hfound, hcall, hid, hbytes, hle, -⟩ := advance_frame h hframe'
    rw [hsome] at hfound
    cases hfound
    exact ⟨frame', hframe', hcall, hid, hbytes, hle⟩
  silent := by
    rw [hover]
    exact fun hfalse => by cases hfalse

theorem dropLast_advance (client : Client Fields Value) (count : Nat) :
    (client.advance count).frames.dropLast = client.frames.dropLast := by
  apply List.ext_getElem?
  intro index
  have hlength : (client.advance count).frames.length = client.frames.length := by
    simp [advance]
  rw [List.getElem?_dropLast, List.getElem?_dropLast, hlength, getElem?_advance]
  by_cases hindex : index < client.frames.length - 1
  · rw [if_pos hindex, if_pos hindex]
    cases client.frames[index]? with
    | none => rfl
    | some frame => rw [Option.map_some, if_neg (by omega)]
  · rw [if_neg hindex, if_neg hindex]

theorem keys_advance (client : Client Fields Value) (count : Nat) :
    (client.advance count).frames.map (fun frame => (frame.id, frame.call))
      = client.frames.map fun frame => (frame.id, frame.call) := by
  apply List.ext_getElem?
  intro index
  rw [List.getElem?_map, List.getElem?_map, getElem?_advance, Option.map_map]
  congr 1
  funext frame
  dsimp only [Function.comp]
  split <;> rfl

theorem advance_held (h : Held codec limits [] client) {deadline : Nat}
    (hwriting : client.stage = .writing deadline) (count : Nat) :
    Held codec limits [] (client.advance count) ∧ Steps client (client.advance count) := by
  have hsteps := advance_steps h count (by rw [hwriting]; rfl)
  refine ⟨?_, hsteps⟩
  have hback : ∀ frame' ∈ (client.advance count).frames, ∃ frame ∈ client.frames,
      frame'.call = frame.call ∧ frame'.id = frame.id ∧ frame'.bytes = frame.bytes
        ∧ frame'.written ≤ frame.bytes.length := by
    intro frame' hmem
    obtain ⟨index, hindex⟩ := List.getElem?_of_mem hmem
    obtain ⟨frame, hframe, hcall, hid, hbytes, -, hle⟩ := advance_frame h hindex
    exact ⟨frame, List.mem_of_getElem? hframe, hcall, hid, hbytes, hle⟩
  have hforth : ∀ frame ∈ client.frames, ∃ frame' ∈ (client.advance count).frames,
      frame'.call = frame.call ∧ frame'.id = frame.id ∧ frame'.bytes = frame.bytes
        ∧ frame.written ≤ frame'.written ∧ frame'.written ≤ frame'.bytes.length := by
    intro frame hmem
    obtain ⟨index, hindex⟩ := List.getElem?_of_mem hmem
    obtain ⟨frame', hframe', hcall, hid, hbytes, hle⟩ := hsteps.frames index frame hindex
    obtain ⟨found, hfound, -, -, hbytes', -, hle'⟩ := advance_frame h hframe'
    rw [← hbytes'] at hle'
    exact ⟨frame', List.mem_of_getElem? hframe', hcall, hid, hbytes, hle, hle'⟩
  refine { h with
      unsent := ?unsent, sent := ?sent, bounds := ?bounds, order := ?order, content := ?content,
      written := ?written, whole := ?whole, idle := ?idle, told := ?told, answered := ?answered }
  case unsent =>
    intro request hmem frame' hframe'
    obtain ⟨frame, hframe, hcall, -⟩ := hback frame' hframe'
    rw [hcall]
    exact h.unsent request hmem frame hframe
  case sent =>
    intro entry hmem
    obtain ⟨frame, hframe, hid, hcall⟩ := h.sent entry hmem
    obtain ⟨frame', hframe', hcall', hid', -⟩ := hforth frame hframe
    exact ⟨frame', hframe', hid'.trans hid, hcall'.trans hcall⟩
  case bounds =>
    intro frame' hframe'
    obtain ⟨frame, hframe, -, hid, -⟩ := hback frame' hframe'
    rw [hid]
    exact h.bounds frame hframe
  case order =>
    have hkeys := (List.pairwise_map (f := fun frame : Frame => (frame.id, frame.call))
      (R := fun key later => key.1 < later.1 ∧ key.2 ≠ later.2)).mpr h.order
    rw [← keys_advance client count] at hkeys
    exact List.pairwise_map.mp hkeys
  case content =>
    intro frame' hframe'
    obtain ⟨frame, hframe, hcall, hid, hbytes, -⟩ := hback frame' hframe'
    rw [hcall, hid, hbytes]
    exact h.content frame hframe
  case written =>
    intro frame' hframe'
    obtain ⟨frame, hframe, -, -, hbytes, hle⟩ := hback frame' hframe'
    rw [hbytes]
    exact hle
  case whole =>
    rw [dropLast_advance]
    exact h.whole
  case idle =>
    intro hidle
    change client.stage.isSelecting = true at hidle
    rw [hwriting] at hidle
    cases hidle
  case told =>
    intro index call error hcall herror hremote hkind
    refine (h.told index call error hcall herror hremote hkind).imp id fun hnone frame' hframe' => ?_
    obtain ⟨frame, hframe, hsame, -⟩ := hback frame' hframe'
    rw [hsame]
    exact hnone frame hframe
  case answered =>
    intro index call outcome hcall houtcome hreply
    obtain ⟨frame, hframe, hindex, hfull⟩ := h.answered index call outcome hcall houtcome hreply
    obtain ⟨frame', hframe', hcall', -, hbytes, hle, hle'⟩ := hforth frame hframe
    refine ⟨frame', hframe', hcall'.trans hindex, ?_⟩
    rw [hbytes] at hle' ⊢
    omega

theorem flush_held (h : Held codec limits [] client) (hover : client.stage.isOver = false)
    (hwritten : client.isWritten = true) :
    Held codec limits [] (client.enter .selecting) ∧ Steps client (client.enter .selecting) := by
  have hfull : ∀ frame ∈ client.frames, frame.written = frame.bytes.length := by
    intro frame hmem
    cases hlast : client.frames.getLast? with
    | none =>
      rw [List.getLast?_eq_none_iff.mp hlast] at hmem
      cases hmem
    | some last =>
      rw [← List.dropLast_append_getLast? last hlast] at hmem
      rcases List.mem_append.mp hmem with hbefore | heq
      · exact h.whole frame hbefore
      · rw [List.mem_singleton.mp heq]
        unfold isWritten at hwritten
        rw [hlast] at hwritten
        simpa using hwritten
  constructor
  · refine { h with idle := ?idle, plain := ?plain, done := ?done, ended := ?ended }
    case idle => exact fun _ => hfull
    case plain => exact fun failure hfailure => by cases hfailure
    case done => exact fun hdone => by cases hdone
    case ended => exact fun hended => by cases hended
  · refine .still rfl rfl ?_
    rw [hover]
    exact fun hfalse => by cases hfalse

theorem Held.front (h : Held codec limits [] client)
    {queue : List (Incoming Fields)} (hqueue : client.queue = request :: queue)
    (hstage : client.stage ≠ .ended) :
    Held codec limits [(request.mutate, request.reply)] { client with queue := queue } := by
  refine h.regroup rfl rfl rfl rfl ?_ ?_ (List.Sublist.refl _) id h.plain h.done
    fun hended => absurd hended hstage
  · rw [List.append_nil]
    simp only [waiting, queuedCalls, hqueue, List.map_cons, List.cons_append]
    exact (List.perm_append_singleton _ _).symm
  · intro other hother
    rw [hqueue]
    exact List.mem_cons_of_mem _ hother

theorem pump_held (h : Held codec limits [] client) (event : Event) :
    Held codec limits [] (client.pump codec limits event)
      ∧ Steps client (client.pump codec limits event) := by
  unfold pump
  split
  · next hselecting =>
    split
    · exact h.fail rfl
    · split
      · exact h.fail rfl
      · split
        · exact receive_held h hselecting _
        · split
          · exact ⟨h, .refl client⟩
          · next request queue hqueue =>
            have hmem : request ∈ client.queue := by
              rw [hqueue]
              exact List.mem_cons_self
            have hmoved := h.front hqueue (by rw [hselecting]; exact fun hended => by cases hended)
            obtain ⟨hheld, hsteps⟩ := take_held hmoved hselecting (h.unsent request hmem)
              (h.commands request hmem)
            have hstart : Steps client { client with queue := queue } := .still rfl rfl id
            exact ⟨hheld, hstart.trans hsteps⟩
        · exact ⟨h, .refl client⟩
  · next deadline hwriting =>
    split
    · exact h.fail rfl
    · split
      · exact advance_held h hwriting _
      · split
        · next hwritten => exact flush_held h (by rw [hwriting]; rfl) hwritten
        · exact ⟨h, .refl client⟩
      · exact h.fail rfl
      · split
        · exact h.fail rfl
        · exact ⟨h, .refl client⟩
  · next failure hclosing =>
    have hmoved : Held codec limits client.pendingCalls
        { client with closed := true, pending := [], stage := .draining } := by
      refine h.regroup rfl rfl rfl rfl ?_ (fun _ => id) (List.nil_sublist _)
        (fun hidle => by cases hidle) (fun found hfound => by cases hfound)
        (fun _ => ⟨rfl, rfl⟩) fun hended => by cases hended
      simp [waiting, queuedCalls, pendingCalls]
    obtain ⟨hheld, hsteps⟩ := hmoved.answerAll (h.plain failure hclosing)
    have hstart : Steps client { client with closed := true, pending := [], stage := .draining } :=
      .still rfl rfl fun _ => rfl
    exact ⟨hheld, hstart.trans hsteps⟩
  · next hdraining =>
    have hdone := h.done (by rw [hdraining]; rfl)
    split
    · next hqueue =>
      refine ⟨?_, .still rfl rfl fun _ => rfl⟩
      exact h.regroup rfl rfl rfl rfl (List.Perm.refl _) (fun _ => id) (List.Sublist.refl _)
        (fun hidle => by cases hidle) (fun found hfound => by cases hfound) (fun _ => hdone)
        fun _ => hqueue
    · next request queue hqueue =>
      have hmem : request ∈ client.queue := by
        rw [hqueue]
        exact List.mem_cons_self
      have hmoved := h.front hqueue (by rw [hdraining]; exact fun hended => by cases hended)
      obtain ⟨hheld, hsteps⟩ := hmoved.refuse .disconnected rfl
        fun _ => .inr (h.unsent request hmem)
      have hstart : Steps client { client with queue := queue } := .still rfl rfl id
      exact ⟨hheld, hstart.trans hsteps⟩
  · exact ⟨h, .refl client⟩

theorem abort_held (h : Held codec limits [] client) :
    Held codec limits [] client.abort ∧ Steps client client.abort := by
  have hmoved : Held codec limits (client.queuedCalls ++ client.pendingCalls)
      { client with stop := true, closed := true, queue := [], pending := [], stage := .ended } := by
    refine h.regroup rfl rfl rfl rfl ?_ (fun request hmem => by cases hmem) (List.nil_sublist _)
      (fun hidle => by cases hidle) (fun found hfound => by cases hfound) (fun _ => ⟨rfl, rfl⟩)
      fun _ => rfl
    simp [waiting, queuedCalls, pendingCalls]
  obtain ⟨hheld, hsteps⟩ := hmoved.answerAll (show ClientError.disconnected.isRemote = false from rfl)
  have hstart : Steps client
      { client with stop := true, closed := true, queue := [], pending := [], stage := .ended } :=
    .still rfl rfl fun _ => rfl
  exact ⟨hheld, hstart.trans hsteps⟩

/-! ## New requests -/

def accepted (client : Client Fields Value) (command : Command Fields) (deadline : Nat) :
    Client Fields Value :=
  { client with
    capacity := client.capacity - 1
    calls := client.calls ++ [⟨command, false, none⟩]
    queue := client.queue ++
      [⟨command, client.now + deadline, mutating command.kind, client.calls.length⟩] }

theorem waiting_accepted (client : Client Fields Value) (command : Command Fields)
    (deadline : Nat) : (client.waiting ++ [(mutating command.kind, client.calls.length)]).Perm
      ((client.accepted command deadline).waiting ++ []) := by
  have hwaiting : (client.accepted command deadline).waiting ++ [] = client.queuedCalls
      ++ ([(mutating command.kind, client.calls.length)] ++ client.pendingCalls) := by
    simp [waiting, queuedCalls, pendingCalls, accepted]
  rw [hwaiting]
  unfold waiting
  rw [List.append_assoc]
  exact List.perm_append_comm.append_left _

variable {call : Call Fields Value}

theorem calls_accepted {command : Command Fields} {deadline : Nat}
    (hsome : (client.accepted command deadline).calls[index]? = some call) :
    client.calls[index]? = some call
      ∨ index = client.calls.length ∧ call = ⟨command, false, none⟩ := by
  change (client.calls ++ [_])[index]? = some call at hsome
  by_cases hlt : index < client.calls.length
  · rw [List.getElem?_append_left hlt] at hsome
    exact .inl hsome
  · have hbound := (List.getElem?_eq_some_iff.mp hsome).1
    rw [List.length_append, List.length_singleton] at hbound
    have heq : index = client.calls.length := by omega
    subst heq
    rw [List.getElem?_append_right (Nat.le_refl _), Nat.sub_self] at hsome
    cases hsome
    exact .inr ⟨rfl, rfl⟩

theorem accepted_steps (client : Client Fields Value) (command : Command Fields) (deadline : Nat) :
    Steps client (client.accepted command deadline) where
  calls := by
    intro index call hsome
    refine ⟨call, ?_, rfl, fun _ => id⟩
    change (client.calls ++ [_])[index]? = some call
    rw [List.getElem?_append_left (List.getElem?_eq_some_iff.mp hsome).1]
    exact hsome
  frames := fun _ frame hsome => ⟨frame, hsome, rfl, rfl, rfl, Nat.le_refl _⟩
  silent := fun hover => ⟨hover, rfl⟩

theorem accepted_held (h : Held codec limits [] client) (command : Command Fields) (deadline : Nat)
    (hcapacity : client.capacity ≠ 0) (hopen : client.closed = false) :
    Held codec limits [] (client.accepted command deadline) := by
  have hperm := waiting_accepted client command deadline
  have hkeep : ∀ (index : Nat) (call : Call Fields Value), client.calls[index]? = some call →
      (client.accepted command deadline).calls[index]? = some call := by
    intro index call hsome
    change (client.calls ++ [_])[index]? = some call
    rw [List.getElem?_append_left (List.getElem?_eq_some_iff.mp hsome).1]
    exact hsome
  have hnew : (client.accepted command deadline).calls[client.calls.length]?
      = some ⟨command, false, none⟩ := by simp [accepted]
  have hvalid : ∀ (index : Nat) (call : Call Fields Value),
      client.calls[index]? = some call → index ≠ client.calls.length := by
    intro index call hsome heq
    rw [heq, List.getElem?_eq_none (Nat.le_refl _)] at hsome
    cases hsome
  have hnotDone : client.stage.isDone = false := by
    by_contra hdone
    have hclosed := (h.done (by simpa using hdone)).2
    rw [hopen] at hclosed
    cases hclosed
  constructor
  case permits =>
    have hpermits := h.permits
    rw [List.append_nil] at hpermits
    rw [← hperm.length_eq, List.length_append, List.length_singleton]
    change client.capacity - 1 + _ = _
    omega
  case distinct =>
    refine (hperm.map Prod.snd).nodup ?_
    have hdistinct := h.distinct
    rw [List.append_nil] at hdistinct
    rw [List.map_append, List.nodup_append]
    refine ⟨hdistinct, by simp, ?_⟩
    intro index hindex other hother heq
    obtain ⟨entry, hentry, rfl⟩ := List.mem_map.mp hindex
    obtain ⟨call, hcall, -⟩ := h.waits entry (List.mem_append_left _ hentry)
    rw [List.map_singleton, List.mem_singleton] at hother
    exact hvalid _ call hcall (heq.trans hother)
  case waits =>
    intro entry hmem
    rcases List.mem_append.mp (hperm.mem_iff.mpr hmem) with hold | hlast
    · obtain ⟨call, hcall, hrest⟩ := h.waits entry (List.mem_append_left _ hold)
      exact ⟨call, hkeep _ call hcall, hrest⟩
    · rw [List.mem_singleton.mp hlast]
      exact ⟨_, hnew, rfl, rfl⟩
  case kept =>
    intro index call hsome hnone hdropped
    rcases calls_accepted hsome with hold | ⟨rfl, -⟩
    · obtain ⟨entry, hmem, hentry⟩ := h.kept index call hold hnone hdropped
      rw [List.append_nil] at hmem
      exact ⟨entry, hperm.mem_iff.mp (List.mem_append_left _ hmem), hentry⟩
    · exact ⟨_, hperm.mem_iff.mp (List.mem_append_right _ (List.mem_singleton_self _)), rfl⟩
  case unsent =>
    intro request hmem frame hframe
    rcases List.mem_append.mp hmem with hold | hlast
    · exact h.unsent request hold frame hframe
    · rw [List.mem_singleton.mp hlast]
      obtain ⟨call, bytes, hcall, -⟩ := h.content frame hframe
      exact hvalid _ call hcall
  case commands =>
    intro request hmem
    rcases List.mem_append.mp hmem with hold | hlast
    · obtain ⟨call, hcall, hcommand⟩ := h.commands request hold
      exact ⟨call, hkeep _ call hcall, hcommand⟩
    · rw [List.mem_singleton.mp hlast]
      exact ⟨_, hnew, rfl⟩
  case ids => exact h.ids
  case sent => exact h.sent
  case bounds => exact h.bounds
  case first => exact h.first
  case order => exact h.order
  case content =>
    intro frame hframe
    obtain ⟨call, bytes, hcall, hrest⟩ := h.content frame hframe
    exact ⟨call, bytes, hkeep _ call hcall, hrest⟩
  case written => exact h.written
  case whole => exact h.whole
  case idle => exact h.idle
  case told =>
    intro index call error hsome herror
    rcases calls_accepted hsome with hold | ⟨-, rfl⟩
    · exact h.told index call error hold herror
    · cases herror
  case answered =>
    intro index call outcome hsome houtcome
    rcases calls_accepted hsome with hold | ⟨-, rfl⟩
    · exact h.answered index call outcome hold houtcome
    · cases houtcome
  case plain => exact h.plain
  case done =>
    intro hdone
    change client.stage.isDone = true at hdone
    rw [hnotDone] at hdone
    cases hdone
  case ended =>
    intro hended
    change client.stage = .ended at hended
    rw [hended] at hnotDone
    cases hnotDone

theorem request_held (h : Held codec limits [] client) (command : Command Fields) (deadline : Nat) :
    Held codec limits [] (client.request limits command deadline).2
      ∧ Steps client (client.request limits command deadline).2 := by
  unfold request
  split
  · exact ⟨h, .refl client⟩
  · split
    · exact ⟨h, .refl client⟩
    · split
      · exact ⟨h, .refl client⟩
      · next hcapacity =>
        split
        · exact ⟨h, .refl client⟩
        · next hroom =>
          have hopen : client.closed = false := by
            by_contra hclosed
            exact hroom (.inl (by simpa using hclosed))
          exact ⟨accepted_held h command deadline hcapacity hopen, accepted_steps client _ _⟩

theorem drop_held (h : Held codec limits [] client) (call : Nat) :
    Held codec limits [] (client.drop call) ∧ Steps client (client.drop call) := by
  have hget : ∀ index, (client.drop call).calls[index]? = (client.calls[index]?).map fun old =>
      if call = index then { old with dropped := true } else old := by
    intro index
    simp only [drop, List.getElem?_modify, Option.map_eq_map]
  have hforth : ∀ (index : Nat) (old : Call Fields Value), client.calls[index]? = some old →
      ∃ call', (client.drop call).calls[index]? = some call' ∧ call'.command = old.command
        ∧ call'.outcome = old.outcome := by
    intro index old hsome
    rw [hget, hsome, Option.map_some]
    refine ⟨_, rfl, ?_⟩
    split <;> exact ⟨rfl, rfl⟩
  have hback : ∀ (index : Nat) (call' : Call Fields Value),
      (client.drop call).calls[index]? = some call' → ∃ old, client.calls[index]? = some old
        ∧ call'.command = old.command ∧ call'.outcome = old.outcome
        ∧ (call'.dropped = false → old.dropped = false) := by
    intro index call' hsome
    rw [hget, Option.map_eq_some_iff] at hsome
    obtain ⟨old, hold, rfl⟩ := hsome
    refine ⟨old, hold, ?_⟩
    split
    · exact ⟨rfl, rfl, fun hfalse => by cases hfalse⟩
    · exact ⟨rfl, rfl, id⟩
  constructor
  · refine { h with
        waits := ?waits, kept := ?kept, commands := ?commands, content := ?content, told := ?told,
        answered := ?answered }
    case waits =>
      intro entry hmem
      obtain ⟨old, hold, hnone, hkind⟩ := h.waits entry hmem
      obtain ⟨call', hcall', hcommand, houtcome⟩ := hforth _ old hold
      exact ⟨call', hcall', houtcome.trans hnone, by rw [hcommand]; exact hkind⟩
    case kept =>
      intro index call' hsome hnone hdropped
      obtain ⟨old, hold, -, houtcome, hbefore⟩ := hback index call' hsome
      exact h.kept index old hold (houtcome.symm.trans hnone) (hbefore hdropped)
    case commands =>
      intro request hmem
      obtain ⟨old, hold, hcommand⟩ := h.commands request hmem
      obtain ⟨call', hcall', hcommand', -⟩ := hforth _ old hold
      exact ⟨call', hcall', hcommand'.trans hcommand⟩
    case content =>
      intro frame hframe
      obtain ⟨old, bytes, hold, hencode, hbytes⟩ := h.content frame hframe
      obtain ⟨call', hcall', hcommand, -⟩ := hforth _ old hold
      exact ⟨call', bytes, hcall', by rw [hcommand]; exact hencode, hbytes⟩
    case told =>
      intro index call' error hsome herror hremote hkind
      obtain ⟨old, hold, hcommand, houtcome, -⟩ := hback index call' hsome
      rw [hcommand] at hkind
      exact h.told index old error hold (houtcome.symm.trans herror) hremote hkind
    case answered =>
      intro index call' outcome hsome hfound
      obtain ⟨old, hold, -, houtcome, -⟩ := hback index call' hsome
      exact h.answered index old outcome hold (houtcome.symm.trans hfound)
  · constructor
    case calls =>
      intro index old hold
      obtain ⟨call', hcall', hcommand, houtcome⟩ := hforth index old hold
      exact ⟨call', hcall', hcommand, fun outcome hsome => houtcome.trans hsome⟩
    case frames => exact fun _ frame hsome => ⟨frame, hsome, rfl, rfl, rfl, Nat.le_refl _⟩
    case silent => exact fun hover => ⟨hover, rfl⟩

theorem step_held (h : Held codec limits [] client) (op : Op Fields) :
    Held codec limits [] (client.step codec limits op).2
      ∧ Steps client (client.step codec limits op).2 := by
  cases op with
  | request command deadline => exact request_held h command deadline
  | drop call => exact drop_held h call
  | close =>
    refine ⟨?_, .still rfl rfl id⟩
    exact h.regroup rfl rfl rfl rfl (List.Perm.refl _) (fun _ => id) (List.Sublist.refl _) id
      h.plain h.done h.ended
  | tick elapsed =>
    refine ⟨?_, .still rfl rfl id⟩
    exact h.regroup rfl rfl rfl rfl (List.Perm.refl _) (fun _ => id) (List.Sublist.refl _) id
      h.plain h.done h.ended
  | pump event => exact pump_held h event
  | abort => exact abort_held h

theorem new_held (codec : Codec Fields Value) (limits : Limits) :
    Held codec limits [] (new limits) := by
  constructor <;> simp [new, waiting, queuedCalls, pendingCalls, Stage.isDone]

/-! ## Answers -/

def Mute (before after : Client Fields Value) : Prop :=
  ∀ (index : Nat) (call : Call Fields Value) (outcome : Outcome Value),
    after.calls[index]? = some call → call.outcome = some outcome → isReply outcome = true →
    ∃ call', before.calls[index]? = some call' ∧ call'.outcome = some outcome

theorem Mute.still {before after : Client Fields Value} (hcalls : after.calls = before.calls) :
    Mute before after := by
  intro index call outcome hcall houtcome _
  rw [hcalls] at hcall
  exact ⟨call, hcall, houtcome⟩

theorem Mute.trans {first second third : Client Fields Value} (h : Mute first second)
    (h' : Mute second third) : Mute first third := by
  intro index call outcome hcall houtcome hreply
  obtain ⟨call', hcall', houtcome'⟩ := h' index call outcome hcall houtcome hreply
  exact h index call' outcome hcall' houtcome' hreply

theorem refuse_mute (client : Client Fields Value) (index : Nat) {error : ClientError}
    (hremote : error.isRemote = false) : Mute client (client.refuse index error) := by
  intro other call outcome hcall houtcome hreply
  obtain ⟨call', hcall', -, -, hsame | ⟨-, -, hanswer⟩⟩ := send_calls hcall
  · exact ⟨call', hcall', hsame.symm.trans houtcome⟩
  · rw [hanswer] at houtcome
    cases houtcome
    change error.isRemote = true at hreply
    rw [hremote] at hreply
    cases hreply

theorem answerAll_mute {failure : ClientError} (hfailure : failure.isRemote = false)
    (client : Client Fields Value) (calls : List (Bool × Nat)) :
    Mute client (client.answerAll failure calls) := by
  induction calls generalizing client with
  | nil => exact .still rfl
  | cons entry rest ih =>
    obtain ⟨mutate, call⟩ := entry
    have hremote : (ending failure mutate).isRemote = false := by
      cases mutate
      · exact hfailure
      · rfl
    exact (refuse_mute client call hremote).trans (ih _)

theorem take_mute (client : Client Fields Value) (request : Incoming Fields) :
    Mute client (client.take codec limits request) := by
  unfold take
  split
  · exact .still rfl
  · split
    · exact refuse_mute client _ rfl
    · split
      · have hrefused : Mute client (client.refuse request.reply .disconnected) :=
          refuse_mute client _ rfl
        exact hrefused.trans (.still rfl)
      · dsimp only
        split
        · next error hencode =>
          have hnumber : Mute client { client with nextId := client.nextId + 1 } := .still rfl
          exact hnumber.trans (refuse_mute _ _ (by rw [encode_error hencode]; rfl))
        · exact .still rfl

def Answers (codec : Codec Fields Value) (client : Client Fields Value) (op : Op Fields)
    (index : Nat) (outcome : Outcome Value) : Prop :=
  ∃ bytes entry, op = .pump (.frame (some (.ok (some bytes))))
    ∧ decode codec bytes = .ok (entry.1, outcome) ∧ entry ∈ client.pending
    ∧ entry.2.reply = index

theorem reply_answers (client : Client Fields Value) {bytes : List UInt8}
    (hcall : (client.reply codec bytes).calls[index]? = some call)
    (houtcome : call.outcome = some outcome) :
    (∃ call', client.calls[index]? = some call' ∧ call'.outcome = some outcome)
      ∨ Answers codec client (.pump (.frame (some (.ok (some bytes))))) index outcome := by
  unfold reply at hcall
  split at hcall
  · exact .inl ⟨call, hcall, houtcome⟩
  · next id found hdecode =>
    split at hcall
    · exact .inl ⟨call, hcall, houtcome⟩
    · next entry hfind =>
      have hid : entry.1 = id := by simpa using List.find?_some hfind
      obtain ⟨call', hcall', -, -, hsame | ⟨hindex, -, hanswer⟩⟩ := send_calls hcall
      · exact .inl ⟨call', hcall', hsame.symm.trans houtcome⟩
      · rw [hanswer] at houtcome
        cases houtcome
        rw [← hid] at hdecode
        exact .inr ⟨bytes, entry, rfl, hdecode, List.mem_of_find?_eq_some hfind, hindex⟩

theorem step_answers (h : Held codec limits [] client) (op : Op Fields)
    (hcall : (client.step codec limits op).2.calls[index]? = some call)
    (houtcome : call.outcome = some outcome) (hreply : isReply outcome = true) :
    (∃ call', client.calls[index]? = some call' ∧ call'.outcome = some outcome)
      ∨ Answers codec client op index outcome := by
  have hmute : ∀ after : Client Fields Value, Mute client after →
      after.calls[index]? = some call → (∃ call', client.calls[index]? = some call'
        ∧ call'.outcome = some outcome) ∨ Answers codec client op index outcome :=
    fun after hmute hafter => .inl (hmute index call outcome hafter houtcome hreply)
  cases op with
  | request command deadline =>
    refine hmute (client.request limits command deadline).2 ?_ hcall
    unfold request
    split
    · exact .still rfl
    · split
      · exact .still rfl
      · split
        · exact .still rfl
        · split
          · exact .still rfl
          · intro other found answer hfound hanswer _
            rcases calls_accepted hfound with hold | ⟨-, rfl⟩
            · exact ⟨found, hold, hanswer⟩
            · cases hanswer
  | drop dropped =>
    refine hmute (client.drop dropped) ?_ hcall
    intro other found answer hfound hanswer _
    simp only [drop, List.getElem?_modify, Option.map_eq_map, Option.map_eq_some_iff] at hfound
    obtain ⟨old, hold, rfl⟩ := hfound
    refine ⟨old, hold, ?_⟩
    split at hanswer <;> exact hanswer
  | close => exact hmute { client with stop := true } (.still rfl) hcall
  | tick elapsed => exact hmute { client with now := client.now + elapsed } (.still rfl) hcall
  | abort =>
    refine hmute client.abort ?_ hcall
    exact answerAll_mute rfl { client with
      stop := true, closed := true, queue := [], pending := [], stage := .ended } _
  | pump event =>
    change (client.pump codec limits event).calls[index]? = some call at hcall
    unfold pump at hcall
    split at hcall
    · split at hcall
      · exact hmute _ (.still rfl) hcall
      · split at hcall
        · exact hmute _ (.still rfl) hcall
        · split at hcall
          · unfold receive at hcall
            split at hcall
            · split at hcall
              · exact reply_answers client hcall houtcome
              · exact hmute _ (.still rfl) hcall
            all_goals exact hmute _ (.still rfl) hcall
          · split at hcall
            · exact hmute _ (.still rfl) hcall
            · next request queue _ =>
              have hstart : Mute client { client with queue := queue } := .still rfl
              exact hmute _ (hstart.trans (take_mute _ request)) hcall
          · exact hmute _ (.still rfl) hcall
    · split at hcall
      · exact hmute _ (.still rfl) hcall
      · split at hcall
        · exact hmute _ (.still rfl) hcall
        · split at hcall
          · exact hmute _ (.still rfl) hcall
          · exact hmute _ (.still rfl) hcall
        · exact hmute _ (.still rfl) hcall
        · split at hcall
          · exact hmute _ (.still rfl) hcall
          · exact hmute _ (.still rfl) hcall
    · next failure hclosing =>
      refine hmute _ ?_ hcall
      exact answerAll_mute (h.plain failure hclosing)
        { client with closed := true, pending := [], stage := .draining } _
    · split at hcall
      · exact hmute _ (.still rfl) hcall
      · next request queue _ =>
        have hstart : Mute client { client with queue := queue } := .still rfl
        exact hmute _ (hstart.trans (refuse_mute _ _ rfl)) hcall
    · exact hmute _ (.still rfl) hcall

theorem answerAll_core (failure : ClientError) (client : Client Fields Value)
    (calls : List (Bool × Nat)) : (client.answerAll failure calls).stage = client.stage
      ∧ (client.answerAll failure calls).pending = client.pending
      ∧ (client.answerAll failure calls).queue = client.queue := by
  induction calls generalizing client with
  | nil => exact ⟨rfl, rfl, rfl⟩
  | cons entry rest ih => exact ih (client.refuse entry.2 (ending failure entry.1))

theorem pending_take (client : Client Fields Value) (request : Incoming Fields) :
    ∀ entry ∈ client.pending, entry ∈ (client.take codec limits request).pending := by
  intro entry hmem
  unfold take
  split
  · exact hmem
  · split
    · exact hmem
    · split
      · exact hmem
      · dsimp only
        split
        · exact hmem
        · exact List.mem_append_left _ hmem

theorem step_slot (client : Client Fields Value) (op : Op Fields) {entry : Nat × Pending}
    (hmem : entry ∈ client.pending) : entry ∈ (client.step codec limits op).2.pending
      ∨ (∃ bytes outcome, op = .pump (.frame (some (.ok (some bytes))))
        ∧ decode codec bytes = .ok (entry.1, outcome))
      ∨ (client.step codec limits op).2.stage.isDone = true := by
  cases op with
  | request command deadline =>
    refine .inl ?_
    change entry ∈ (client.request limits command deadline).2.pending
    unfold request
    split
    · exact hmem
    · split
      · exact hmem
      · split
        · exact hmem
        · split <;> exact hmem
  | drop call => exact .inl hmem
  | close => exact .inl hmem
  | tick elapsed => exact .inl hmem
  | abort =>
    refine .inr (.inr ?_)
    change client.abort.stage.isDone = true
    unfold abort
    rw [(answerAll_core _ _ _).1]
    rfl
  | pump event =>
    change entry ∈ (client.pump codec limits event).pending ∨ _
      ∨ (client.pump codec limits event).stage.isDone = true
    unfold pump
    split
    · split
      · exact .inl hmem
      · split
        · exact .inl hmem
        · split
          · next frame =>
            unfold receive
            split
            · next bytes =>
              split
              · unfold reply
                split
                · exact .inl hmem
                · next id outcome hdecode =>
                  split
                  · exact .inl hmem
                  · by_cases hid : entry.1 = id
                    · rw [← hid] at hdecode
                      exact .inr (.inl ⟨bytes, outcome, rfl, hdecode⟩)
                    · refine .inl (List.mem_filter.mpr ⟨hmem, ?_⟩)
                      simpa using hid
              · exact .inl hmem
            all_goals exact .inl hmem
          · split
            · exact .inl hmem
            · exact .inl (pending_take _ _ entry hmem)
          · exact .inl hmem
    · split
      · exact .inl hmem
      · split
        · exact .inl hmem
        · split <;> exact .inl hmem
        · exact .inl hmem
        · split <;> exact .inl hmem
    · refine .inr (.inr ?_)
      rw [(answerAll_core _ _ _).1]
      rfl
    · next hdraining =>
      refine .inr (.inr ?_)
      split
      · rfl
      · change client.stage.isDone = true
        rw [hdraining]
        rfl
    · next hended =>
      refine .inr (.inr ?_)
      rw [hended]
      rfl

/-! ## The end of a connection -/

/-- What ends the connection: a frame that is none, a reply that nobody waits for, the deadline of
a request that was dispatched or of its frame, and the stop token. -/
def Failing (codec : Codec Fields Value) (limits : Limits) (client : Client Fields Value)
    (event : Event) : Prop :=
  match client.stage with
  | .selecting =>
    client.stop = true ∨ client.expired = true
      ∨ ∃ frame, event = .frame frame ∧ ∀ bytes, frame = some (.ok (some bytes)) →
        limits.maxFrame < bytes.length
          ∨ ∀ id outcome, decode codec bytes = .ok (id, outcome) →
            ∀ entry ∈ client.pending, entry.1 ≠ id
  | .writing deadline =>
    client.stop = true ∨ event = .writeFailed ∨ deadline ≤ client.now ∧ event = .idle
  | _ => False

theorem pump_failing {event : Event} (h : Failing codec limits client event) :
    (client.pump codec limits event).stage.isOver = true := by
  unfold Failing at h
  unfold pump
  split at h
  · next hselecting =>
    rw [hselecting]
    dsimp only
    by_cases hstop : client.stop = true
    · rw [if_pos hstop]
      rfl
    · rw [if_neg hstop]
      by_cases hexpired : client.expired = true
      · rw [if_pos hexpired]
        rfl
      · rw [if_neg hexpired]
        rcases h with hstop' | hexpired' | ⟨frame, rfl, hframe⟩
        · exact absurd hstop' hstop
        · exact absurd hexpired' hexpired
        · dsimp only
          unfold receive
          split
          · next bytes =>
            split
            · next hsize =>
              unfold reply
              split
              · rfl
              · next id outcome hdecode =>
                split
                · rfl
                · next entry hfind =>
                  rcases hframe bytes rfl with hlarge | hnone
                  · omega
                  · have hid : entry.1 = id := by simpa using List.find?_some hfind
                    exact absurd hid (hnone id outcome hdecode entry
                      (List.mem_of_find?_eq_some hfind))
            · rfl
          all_goals rfl
  · next deadline hwriting =>
    rw [hwriting]
    dsimp only
    by_cases hstop : client.stop = true
    · rw [if_pos hstop]
      rfl
    · rw [if_neg hstop]
      rcases h with hstop' | rfl | ⟨hdeadline, rfl⟩
      · exact absurd hstop' hstop
      · rfl
      · dsimp only
        rw [if_pos hdeadline]
        rfl
  · cases h

theorem over_ends (client : Client Fields Value) (hover : client.stage.isOver = true) :
    ∃ count, ((machine codec limits).final client
      (List.replicate count (.pump .idle))).stage = .ended := by
  have hdraining : ∀ (length : Nat) (client : Client Fields Value), client.stage = .draining →
      client.queue.length = length → ∃ count, ((machine codec limits).final client
        (List.replicate count (.pump .idle))).stage = .ended := by
    intro length
    induction length with
    | zero =>
      intro client hstage hlength
      refine ⟨1, ?_⟩
      change (client.pump codec limits .idle).stage = .ended
      unfold pump
      rw [hstage, List.eq_nil_of_length_eq_zero hlength]
    | succ length ih =>
      intro client hstage hlength
      cases hqueue : client.queue with
      | nil =>
        rw [hqueue] at hlength
        cases hlength
      | cons request queue =>
        rw [hqueue, List.length_cons] at hlength
        have hpump : client.pump codec limits .idle
            = ({ client with queue := queue }).refuse request.reply .disconnected := by
          unfold pump
          rw [hstage, hqueue]
        obtain ⟨count, hcount⟩ := ih (client.pump codec limits .idle)
          (by rw [hpump]; exact hstage) (by rw [hpump]; exact Nat.succ.inj hlength)
        exact ⟨count + 1, hcount⟩
  cases hstage : client.stage with
  | selecting =>
    rw [hstage] at hover
    cases hover
  | writing deadline =>
    rw [hstage] at hover
    cases hover
  | closing failure =>
    have hdrain : (client.pump codec limits .idle).stage = .draining := by
      unfold pump
      rw [hstage]
      exact (answerAll_core _ _ _).1
    obtain ⟨count, hcount⟩ := hdraining _ (client.pump codec limits .idle) hdrain rfl
    exact ⟨count + 1, hcount⟩
  | draining => exact hdraining _ client hstage rfl
  | ended => exact ⟨0, hstage⟩

end Client

/-! ## The promise to callers -/

def reach (codec : Codec Fields Value) (limits : Limits) (ops : List (Op Fields)) :
    Client Fields Value :=
  (machine codec limits).final (Client.new limits) ops

section

variable (codec : Codec Fields Value) (limits : Limits) (ops : List (Op Fields))

theorem reach_append (later : List (Op Fields)) :
    reach codec limits (ops ++ later) = (machine codec limits).final (reach codec limits ops) later := by
  simp [reach, Machine.final]

theorem reach_held : Client.Held codec limits [] (reach codec limits ops) := by
  have hinductive : (machine codec limits).Inductive (Client.new limits)
      (Client.Held codec limits []) :=
    ⟨Client.new_held codec limits, fun op hheld => (Client.step_held hheld op).1⟩
  exact hinductive.final ops

theorem reach_steps (later : List (Op Fields)) :
    Client.Steps (reach codec limits ops) (reach codec limits (ops ++ later)) := by
  have hinductive : (machine codec limits).Inductive (reach codec limits ops) fun client =>
      Client.Held codec limits [] client ∧ Client.Steps (reach codec limits ops) client := by
    refine ⟨⟨reach_held codec limits ops, .refl _⟩, ?_⟩
    intro client op hstate
    obtain ⟨hheld, hsteps⟩ := Client.step_held hstate.1 op
    exact ⟨hheld, hstate.2.trans hsteps⟩
  rw [reach_append]
  exact (hinductive.final later).2

end

/-- What callers can rely on, whatever the stream delivers. -/
structure ClientOutcomes (codec : Codec Fields Value) (limits : Limits) : Prop where
  /-- A request that is refused at once leaves no trace. -/
  refused : ∀ (client : Client Fields Value) (command : Command Fields) (deadline : Nat)
    (error : ClientError), (client.request limits command deadline).1 = .refused error →
    (client.request limits command deadline).2 = client
  /-- An outcome is given once. -/
  once : ∀ (ops later : List (Op Fields)) (index : Nat) (call : Call Fields Value)
    (outcome : Outcome Value), (reach codec limits ops).calls[index]? = some call →
    call.outcome = some outcome → ∃ call',
      (reach codec limits (ops ++ later)).calls[index]? = some call'
        ∧ call'.outcome = some outcome
  /-- Whoever has none and still waits is in the queue or pending, in one place. -/
  waits : ∀ (ops : List (Op Fields)) (index : Nat) (call : Call Fields Value),
    (reach codec limits ops).calls[index]? = some call → call.outcome = none →
    call.dropped = false →
    index ∈ (reach codec limits ops).waiting.map Prod.snd
      ∧ ((reach codec limits ops).waiting.map Prod.snd).Nodup
  /-- Once the loop is left the pump ends, and then nobody waits any more. -/
  ends : ∀ ops : List (Op Fields), (reach codec limits ops).stage.isOver = true →
    ∃ count, (reach codec limits (ops ++ List.replicate count (.pump .idle))).stage = .ended
  told : ∀ (ops : List (Op Fields)) (index : Nat) (call : Call Fields Value),
    (reach codec limits ops).stage = .ended →
    (reach codec limits ops).calls[index]? = some call → call.dropped = false →
    call.outcome.isSome = true
  /-- A reply reaches only the call behind the pending request with its number. -/
  matched : ∀ (ops : List (Op Fields)) (op : Op Fields) (index : Nat)
    (call call' : Call Fields Value) (outcome : Outcome Value),
    (reach codec limits ops).calls[index]? = some call → call.outcome = none →
    (reach codec limits (ops ++ [op])).calls[index]? = some call' →
    call'.outcome = some outcome → isReply outcome = true →
    Client.Answers codec (reach codec limits ops) op index outcome
  /-- What waits holds the permits. -/
  bounded : ∀ ops : List (Op Fields), (reach codec limits ops).queue.length
    + (reach codec limits ops).pending.length ≤ limits.maxInFlight
  permits : ∀ ops : List (Op Fields), (reach codec limits ops).capacity
    + ((reach codec limits ops).queue.length + (reach codec limits ops).pending.length)
      = limits.maxInFlight
  /-- A dispatched request keeps its slot to its reply or the end of the connection. -/
  slots : ∀ (ops : List (Op Fields)) (op : Op Fields) (entry : Nat × Pending),
    entry ∈ (reach codec limits ops).pending →
    entry ∈ (reach codec limits (ops ++ [op])).pending
      ∨ (∃ bytes outcome, op = .pump (.frame (some (.ok (some bytes))))
        ∧ decode codec bytes = .ok (entry.1, outcome))
      ∨ (reach codec limits (ops ++ [op])).stage.isDone = true
  /-- No two frames are for one request or have one number, and only the last is incomplete. -/
  written : ∀ ops : List (Op Fields),
    ((reach codec limits ops).frames.Pairwise fun frame later =>
        frame.id < later.id ∧ frame.call ≠ later.call)
      ∧ (∀ frame ∈ (reach codec limits ops).frames.dropLast, frame.written = frame.bytes.length)
      ∧ ∀ frame ∈ (reach codec limits ops).frames, ∃ call bytes,
        (reach codec limits ops).calls[frame.call]? = some call
          ∧ encode codec frame.id call.command limits.maxFrame = .ok bytes
          ∧ frame.bytes = header bytes ++ bytes
  /-- What is written stays, and writing only goes on. -/
  kept : ∀ (ops later : List (Op Fields)) (index : Nat) (frame : Frame),
    (reach codec limits ops).frames[index]? = some frame → ∃ frame',
      (reach codec limits (ops ++ later)).frames[index]? = some frame'
        ∧ frame'.call = frame.call ∧ frame'.id = frame.id ∧ frame'.bytes = frame.bytes
        ∧ frame.written ≤ frame'.written
  /-- A mutating request is told something else than its reply or that it is uncertain only if no
  byte of its frame is written. -/
  uncertain : ∀ (ops : List (Op Fields)) (index : Nat) (call : Call Fields Value)
    (outcome : Outcome Value), (reach codec limits ops).calls[index]? = some call →
    call.outcome = some outcome → mutating call.command.kind = true → isReply outcome = false →
    (∃ error, outcome = .error error ∧ error.isUncertain = true)
      ∨ ∀ frame ∈ (reach codec limits ops).frames, frame.call ≠ index
  /-- A failure of framing or identity, and the deadline of a dispatched request or of its frame,
  ends the loop. -/
  failing : ∀ (ops : List (Op Fields)) (event : Event),
    Client.Failing codec limits (reach codec limits ops) event →
    (reach codec limits (ops ++ [.pump event])).stage.isOver = true
  /-- From then on nothing is written. -/
  silent : ∀ ops later : List (Op Fields), (reach codec limits ops).stage.isOver = true →
    (reach codec limits (ops ++ later)).frames = (reach codec limits ops).frames

/-- Callers can rely on their outcomes in every run of the pump. -/
theorem clientOutcomes (codec : Codec Fields Value) (limits : Limits) :
    ClientOutcomes codec limits where
  refused := by
    intro client command deadline error hrefused
    unfold Client.request at hrefused ⊢
    split
    · rfl
    · next hconnected =>
      rw [if_neg hconnected] at hrefused
      split
      · rfl
      · next hadvertised =>
        rw [if_neg hadvertised] at hrefused
        split
        · rfl
        · next hcapacity =>
          rw [if_neg hcapacity] at hrefused
          split
          · rfl
          · next hroom =>
            rw [if_neg hroom] at hrefused
            cases hrefused
  once := by
    intro ops later index call outcome hcall houtcome
    obtain ⟨call', hcall', -, hkept⟩ := (reach_steps codec limits ops later).calls index call hcall
    exact ⟨call', hcall', hkept outcome houtcome⟩
  waits := by
    intro ops index call hcall hnone hdropped
    have hheld := reach_held codec limits ops
    obtain ⟨entry, hmem, hentry⟩ := hheld.kept index call hcall hnone hdropped
    have hdistinct := hheld.distinct
    rw [List.append_nil] at hmem hdistinct
    exact ⟨hentry ▸ List.mem_map_of_mem hmem, hdistinct⟩
  ends := by
    intro ops hover
    obtain ⟨count, hcount⟩ := Client.over_ends (reach codec limits ops) hover
    refine ⟨count, ?_⟩
    rw [reach_append]
    exact hcount
  told := by
    intro ops index call hended hcall hdropped
    have hheld := reach_held codec limits ops
    cases houtcome : call.outcome with
    | some outcome => rfl
    | none =>
      obtain ⟨entry, hmem, -⟩ := hheld.kept index call hcall houtcome hdropped
      have hqueue := hheld.ended hended
      have hpending := (hheld.done (by rw [hended]; rfl)).1
      simp [Client.waiting, Client.queuedCalls, Client.pendingCalls, hqueue, hpending] at hmem
  matched := by
    intro ops op index call call' outcome hcall hnone hcall' houtcome hreply
    rw [reach_append] at hcall'
    rcases Client.step_answers (reach_held codec limits ops) op hcall' houtcome hreply with
      ⟨found, hfound, hsame⟩ | hanswers
    · rw [hcall] at hfound
      cases hfound
      rw [hnone] at hsame
      cases hsame
    · exact hanswers
  bounded := by
    intro ops
    have hpermits := (reach_held codec limits ops).permits
    simp only [List.append_nil, Client.waiting, Client.queuedCalls, Client.pendingCalls,
      List.length_append, List.length_map] at hpermits
    omega
  permits := by
    intro ops
    have hpermits := (reach_held codec limits ops).permits
    simp only [List.append_nil, Client.waiting, Client.queuedCalls, Client.pendingCalls,
      List.length_append, List.length_map] at hpermits
    exact hpermits
  slots := by
    intro ops op entry hmem
    rw [reach_append]
    exact Client.step_slot (reach codec limits ops) op hmem
  written := by
    intro ops
    have hheld := reach_held codec limits ops
    exact ⟨hheld.order, hheld.whole, hheld.content⟩
  kept := fun ops later => (reach_steps codec limits ops later).frames
  uncertain := by
    intro ops index call outcome hcall houtcome hmutating hreply
    cases outcome with
    | ok value => cases hreply
    | error error =>
      refine ((reach_held codec limits ops).told index call error hcall houtcome hreply
        hmutating).imp ?_ id
      exact fun huncertain => ⟨error, rfl, huncertain⟩
  failing := by
    intro ops event hfailing
    rw [reach_append]
    exact Client.pump_failing hfailing
  silent := fun ops later hover => ((reach_steps codec limits ops later).silent hover).2

/-! Before its dispatch a request gives up its slot and its deadline quietly. -/

def plainCodec : Codec Unit Unit where
  serialize := fun id _ => some [UInt8.ofNat id]
  parse := fun _ => none
  remote := fun _ => none

def plainLimits : Limits where
  frameTimeout := 5
  maxFrame := maxFrameBytes
  maxInFlight := maxInFlight
  operations := ["getConfig"]

/-- A request whose deadline is over in the queue is told so and the next one is written; the slot
of a caller who went away before the dispatch is free again without a reply. -/
theorem before_dispatch : (((reach plainCodec plainLimits
            [.request ⟨.getConfig, ()⟩ 1, .tick 2, .pump .request, .request ⟨.getConfig, ()⟩ 9,
              .pump .request, .pump (.wrote 5)]).calls[0]?.bind fun call => call.outcome)
          = some (.error .timeout) ∧ ((reach plainCodec plainLimits
            [.request ⟨.getConfig, ()⟩ 1, .tick 2, .pump .request, .request ⟨.getConfig, ()⟩ 9,
              .pump .request, .pump (.wrote 5)]).frames.map fun frame => (frame.call, frame.written))
          = [(1, 5)]) ∧ ((reach plainCodec plainLimits
            [.request ⟨.getConfig, ()⟩ 1, .drop 0, .pump .request]).calls[0]?.map
              fun call => call.dropped) = some true ∧ (reach plainCodec plainLimits
            [.request ⟨.getConfig, ()⟩ 1, .drop 0, .pump .request]).capacity = maxInFlight
        ∧ (reach plainCodec plainLimits
            [.request ⟨.getConfig, ()⟩ 1, .drop 0, .pump .request]).stage = .selecting :=
  ⟨⟨rfl, rfl⟩, rfl, rfl, rfl⟩

end Ipc

end Regain.Hub
