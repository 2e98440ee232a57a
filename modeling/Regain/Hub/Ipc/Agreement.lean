import Mathlib.Data.List.Perm.Basic
import Regain.Hub.Ipc.ClientRun
import Regain.Hub.Ipc.Server

/-!
# The client and the server agree

Both ends write whole frames, so the other end reads them in order. Every dispatched request is
pending at the client until its response is read, and a request of which the server holds a task has
no response yet.
-/

namespace Regain.Hub

open Lib

namespace Ipc

variable {Fields Value : Type}

theorem toNat_ofNat_div (count scale : Nat) :
    (UInt8.ofNat (count / scale)).toNat = count / scale % 256 := by
  simp

/-! ## Frames -/

theorem size_header {bytes : List UInt8} (hlength : bytes.length ≤ maxFrameBytes) :
    size (UInt8.ofNat bytes.length) (UInt8.ofNat (bytes.length / 2 ^ 8))
      (UInt8.ofNat (bytes.length / 2 ^ 16)) (UInt8.ofNat (bytes.length / 2 ^ 24))
      = bytes.length := by
  have hfirst : (UInt8.ofNat bytes.length).toNat = bytes.length % 256 := by simp
  unfold size
  rw [hfirst, toNat_ofNat_div, toNat_ofNat_div, toNat_ofNat_div]
  unfold maxFrameBytes at hlength
  omega

theorem readFrame_full {bytes : List UInt8} (hpos : 0 < bytes.length)
    (hlength : bytes.length ≤ maxFrameBytes) (rest : List UInt8) :
    readFrame (header bytes ++ bytes ++ rest) = .frame bytes := by
  change readFrame (_ :: _ :: _ :: _ :: (bytes ++ rest)) = .frame bytes
  rw [readFrame, size_header hlength, if_neg (by omega), if_neg (by omega), if_neg (by simp)]
  rw [List.take_left' rfl]

variable {frames : List Frame} {count : Nat}

theorem readFrame_partial {bytes : List UInt8} (hlength : bytes.length ≤ maxFrameBytes)
    (hcount : count < (header bytes ++ bytes).length) :
    readFrame ((header bytes ++ bytes).take count) = .waiting := by
  have hfour : (header bytes ++ bytes).length = 4 + bytes.length := by
    rw [List.length_append]
    rfl
  match count with
  | 0 => rfl
  | 1 => rfl
  | 2 => rfl
  | 3 => rfl
  | count + 4 =>
    change readFrame (_ :: _ :: _ :: _ :: bytes.take count) = .waiting
    rw [readFrame, size_header hlength, if_neg (by omega), if_neg (by omega), if_pos]
    rw [List.length_take]
    omega

theorem onWire_append (frames later : List Frame) :
    onWire (frames ++ later) = onWire frames ++ onWire later :=
  List.flatMap_append

/-- Frames as a side writes them: whole, but for the last one. -/
structure Framed (frames : List Frame) : Prop where
  bodies : ∀ frame ∈ frames, ∃ body, frame.bytes = header body ++ body ∧ 0 < body.length
    ∧ body.length ≤ maxFrameBytes
  written : ∀ frame ∈ frames, frame.written ≤ frame.bytes.length
  whole : ∀ frame ∈ frames.dropLast, frame.written = frame.bytes.length

structure Feed (frames : List Frame) (count read : Nat) : Prop where
  le : count ≤ frames.length
  whole : ∀ frame ∈ frames.take count, frame.written = frame.bytes.length
  read : read = ((frames.take count).flatMap Frame.bytes).length

theorem Feed.start : Feed [] 0 0 :=
  ⟨Nat.le_refl _, fun _ hmem => (by cases hmem), rfl⟩

theorem onWire_whole (hwhole : ∀ frame ∈ frames, frame.written = frame.bytes.length) :
    onWire frames = frames.flatMap Frame.bytes := by
  induction frames with
  | nil => rfl
  | cons frame rest ih =>
    have hrest := ih fun other hmem => hwhole other (List.mem_cons_of_mem _ hmem)
    unfold onWire at hrest ⊢
    rw [List.flatMap_cons, List.flatMap_cons, hrest, hwhole frame List.mem_cons_self,
      List.take_length]

theorem Feed.unread {read : Nat} (h : Feed frames count read) :
    (onWire frames).drop read = onWire (frames.drop count) := by
  have hsplit : onWire frames = (frames.take count).flatMap Frame.bytes
      ++ onWire (frames.drop count) := by
    conv_lhs => rw [← List.take_append_drop count frames]
    rw [onWire_append, onWire_whole h.whole]
  rw [hsplit, h.read, List.drop_left]

theorem Feed.next {read : Nat} (h : Feed frames count read) (hframed : Framed frames) :
    readFrame ((onWire frames).drop read) = .waiting
      ∨ ∃ frame body, frames[count]? = some frame ∧ frame.bytes = header body ++ body
        ∧ readFrame ((onWire frames).drop read) = .frame body
        ∧ Feed frames (count + 1) (read + (4 + body.length)) := by
  rw [h.unread]
  cases hrest : frames.drop count with
  | nil => exact .inl rfl
  | cons frame rest =>
    have hframe : frames[count]? = some frame := by
      have hhead : (frames.drop count)[0]? = some frame := by rw [hrest]; rfl
      rw [List.getElem?_drop] at hhead
      exact hhead
    have hmem := List.mem_of_getElem? hframe
    obtain ⟨body, hbytes, hpos, hlength⟩ := hframed.bodies frame hmem
    have hwritten := hframed.written frame hmem
    by_cases hwhole : frame.written = frame.bytes.length
    · refine .inr ⟨frame, body, hframe, hbytes, ?_, ?_⟩
      · change readFrame (frame.bytes.take frame.written ++ onWire rest) = .frame body
        rw [hwhole, List.take_length, hbytes]
        exact readFrame_full hpos hlength _
      · have htake : frames.take (count + 1) = frames.take count ++ [frame] := by
          rw [List.take_add_one, hframe]
          rfl
        have hlt := (List.getElem?_eq_some_iff.mp hframe).1
        refine ⟨hlt, ?_, ?_⟩
        · rw [htake]
          intro other hother
          rcases List.mem_append.mp hother with hold | hnew
          · exact h.whole other hold
          · rw [List.mem_singleton.mp hnew]
            exact hwhole
        · have hfour : (header body ++ body).length = 4 + body.length := by
            rw [List.length_append]
            rfl
          rw [htake, List.flatMap_append, List.length_append, h.read]
          simp only [List.flatMap_cons, List.flatMap_nil, List.append_nil]
          rw [hbytes, hfour]
    · refine .inl ?_
      have hlast : rest = [] := by
        cases rest with
        | nil => rfl
        | cons later rest =>
          have hdrop : frame ∈ frames.dropLast := by
            rw [← List.take_append_drop count frames, hrest,
              List.dropLast_append_of_ne_nil (by simp)]
            exact List.mem_append_right _ (by simp)
          exact absurd (hframed.whole frame hdrop) hwhole
      subst hlast
      change readFrame (frame.bytes.take frame.written ++ []) = .waiting
      rw [List.append_nil]
      rw [hbytes] at hwritten hwhole ⊢
      exact readFrame_partial hlength (by omega)

theorem Feed.append {read : Nat} (h : Feed frames count read) (later : List Frame) :
    Feed (frames ++ later) count read where
  le := by
    rw [List.length_append]
    exact Nat.le_trans h.le (Nat.le_add_right _ _)
  whole := by
    rw [List.take_append_of_le_length h.le]
    exact h.whole
  read := by
    rw [List.take_append_of_le_length h.le]
    exact h.read

theorem getElem?_advanceLast {index : Nat} :
    (advanceLast frames count)[index]? = (frames[index]?).map fun frame =>
      if frames.length - 1 = index then
        { frame with written := min frame.bytes.length (frame.written + count) }
      else frame := by
  simp only [advanceLast, List.getElem?_modify, Option.map_eq_map]

theorem Feed.advance {read : Nat} (h : Feed frames count read) (more : Nat) :
    Feed (advanceLast frames more) count read := by
  have htake : (advanceLast frames more).take count = frames.take count := by
    apply List.ext_getElem?
    intro index
    rw [List.getElem?_take, List.getElem?_take]
    by_cases hindex : index < count
    · rw [if_pos hindex, if_pos hindex, getElem?_advanceLast]
      cases hframe : frames[index]? with
      | none => rfl
      | some frame =>
        have hmem : frame ∈ frames.take count := by
          apply List.mem_of_getElem?
          rw [List.getElem?_take, if_pos hindex]
          exact hframe
        have hwhole := h.whole frame hmem
        have hmin : min frame.bytes.length (frame.written + more) = frame.written := by omega
        rw [Option.map_some, hmin]
        split <;> rfl
    · rw [if_neg hindex, if_neg hindex]
  refine ⟨?_, ?_, ?_⟩
  · simp only [advanceLast, List.length_modify]
    exact h.le
  · rw [htake]
    exact h.whole
  · rw [htake]
    exact h.read

theorem Framed.append {frames : List Frame} (h : Framed frames)
    (hwhole : ∀ frame ∈ frames, frame.written = frame.bytes.length) {frame : Frame}
    (hbody : ∃ body, frame.bytes = header body ++ body ∧ 0 < body.length
      ∧ body.length ≤ maxFrameBytes) (hwritten : frame.written = 0) :
    Framed (frames ++ [frame]) where
  bodies := by
    intro other hmem
    rcases List.mem_append.mp hmem with hold | hnew
    · exact h.bodies other hold
    · rw [List.mem_singleton.mp hnew]
      exact hbody
  written := by
    intro other hmem
    rcases List.mem_append.mp hmem with hold | hnew
    · exact h.written other hold
    · rw [List.mem_singleton.mp hnew, hwritten]
      exact Nat.zero_le _
  whole := by
    rw [List.dropLast_concat]
    exact hwhole

theorem mem_advanceLast {frame' : Frame} (hmem : frame' ∈ advanceLast frames count) :
    ∃ frame ∈ frames, frame'.call = frame.call ∧ frame'.id = frame.id ∧ frame'.bytes = frame.bytes
      ∧ (frame.written ≤ frame.bytes.length → frame'.written ≤ frame.bytes.length) := by
  obtain ⟨index, hindex⟩ := List.getElem?_of_mem hmem
  rw [getElem?_advanceLast, Option.map_eq_some_iff] at hindex
  obtain ⟨frame, hframe, rfl⟩ := hindex
  refine ⟨frame, List.mem_of_getElem? hframe, ?_⟩
  split
  · exact ⟨rfl, rfl, rfl, fun _ => Nat.min_le_left _ _⟩
  · exact ⟨rfl, rfl, rfl, id⟩

theorem dropLast_advanceLast (frames : List Frame) (count : Nat) :
    (advanceLast frames count).dropLast = frames.dropLast := by
  apply List.ext_getElem?
  intro index
  have hlength : (advanceLast frames count).length = frames.length := by simp [advanceLast]
  rw [List.getElem?_dropLast, List.getElem?_dropLast, hlength, getElem?_advanceLast]
  by_cases hindex : index < frames.length - 1
  · rw [if_pos hindex, if_pos hindex]
    cases frames[index]? with
    | none => rfl
    | some frame => rw [Option.map_some, if_neg (by omega)]
  · rw [if_neg hindex, if_neg hindex]

theorem ids_advanceLast (frames : List Frame) (count : Nat) :
    (advanceLast frames count).map Frame.id = frames.map Frame.id := by
  apply List.ext_getElem?
  intro index
  rw [List.getElem?_map, List.getElem?_map, getElem?_advanceLast, Option.map_map]
  congr 1
  funext frame
  dsimp only [Function.comp]
  split <;> rfl

theorem Framed.advance (h : Framed frames) (count : Nat) :
    Framed (advanceLast frames count) where
  bodies := by
    intro frame' hmem
    obtain ⟨frame, hframe, -, -, hbytes, -⟩ := mem_advanceLast hmem
    rw [hbytes]
    exact h.bodies frame hframe
  written := by
    intro frame' hmem
    obtain ⟨frame, hframe, -, -, hbytes, hle⟩ := mem_advanceLast hmem
    rw [hbytes]
    exact hle (h.written frame hframe)
  whole := by
    rw [dropLast_advanceLast]
    exact h.whole

theorem Framed.all_whole (h : Framed frames) (hlast : lastWritten frames = true) :
    ∀ frame ∈ frames, frame.written = frame.bytes.length := by
  intro frame hmem
  cases hlast' : frames.getLast? with
  | none =>
    rw [List.getLast?_eq_none_iff.mp hlast'] at hmem
    cases hmem
  | some last =>
    rw [← List.dropLast_append_getLast? last hlast'] at hmem
    rcases List.mem_append.mp hmem with hbefore | heq
    · exact h.whole frame hbefore
    · rw [List.mem_singleton.mp heq]
      unfold lastWritten at hlast
      rw [hlast'] at hlast
      simpa using hlast

/-! ## Commands and documents -/

/-- A request that is not special is polled, and answered when it is ready. -/
def Server.accept (server : Server) (serverCodec : ServerCodec Fields Value) (id : Nat)
    (served : Served Value) : Server :=
  match served.ready with
  | some result =>
    ({ server with lastId := id, polled := server.polled ++ [id] }).respond serverCodec id result
      .serve
  | none =>
    { server with lastId := id, polled := server.polled ++ [id], tasks := server.tasks ++ [id] }

/-- A command that both ends treat alike, and that its JSON gives back. -/
structure Plain (codec : Codec Fields Value) (serverCodec : ServerCodec Fields Value)
    (command : Command Fields) : Prop where
  kind : command.kind ≠ .cameraGroupImage
  readable : ∀ (id : Nat) (bytes : List UInt8), id < 2 ^ 64 →
    codec.serialize id command = some bytes → serverCodec.parse bytes = some ⟨version, id, command⟩

/-- Documents are not empty, responses are read back, and the fallback is within the limit. -/
structure Agreeing (codec : Codec Fields Value) (serverCodec : ServerCodec Fields Value) :
    Prop where
  request : ∀ (id : Nat) (command : Command Fields) (bytes : List UInt8),
    codec.serialize id command = some bytes → 0 < bytes.length
  response : ∀ (id : Nat) (result : Result Value) (bytes : List UInt8),
    serverCodec.serialize id result = some bytes → 0 < bytes.length
  success : ∀ (id : Nat) (value : Value) (bytes : List UInt8), id < 2 ^ 64 →
    serverCodec.serialize id (.ok value) = some bytes →
    codec.parse bytes = some ⟨version, id, some value, none⟩
  failure : ∀ (id : Nat) (error : RpcError) (bytes : List UInt8), id < 2 ^ 64 →
    serverCodec.serialize id (.error error) = some bytes → ∃ value,
      codec.parse bytes = some ⟨version, id, none, some value⟩
        ∧ codec.remote value = some error.toRemoteError
  fallback : ∀ id : Nat, id < 2 ^ 64 → ∃ bytes,
    serverCodec.serialize id (.error responseTooLarge) = some bytes
      ∧ bytes.length ≤ maxFrameBytes

section

variable {codec : Codec Fields Value} {serverCodec : ServerCodec Fields Value}

theorem decode_serialized (h : Agreeing codec serverCodec) {id : Nat} (hfirst : 1 < id)
    (hid : id < 2 ^ 64) {result : Result Value} {bytes : List UInt8}
    (hserialize : serverCodec.serialize id result = some bytes) :
    ∃ outcome, decode codec bytes = .ok (id, outcome) := by
  have horder : ¬(version ≠ version ∨ id ≤ 1) := by omega
  cases result with
  | ok value =>
    refine ⟨.ok value, ?_⟩
    unfold decode
    rw [h.success id value bytes hid hserialize]
    dsimp only
    rw [if_neg horder]
  | error error =>
    obtain ⟨value, hparse, hremote⟩ := h.failure id error bytes hid hserialize
    refine ⟨.error (.remote error.toRemoteError), ?_⟩
    have hdelay : (error.retryAfterSeconds.any fun seconds =>
        !seconds.isFinite || seconds.lt (.ofRat 0)) = false := by
      have hall := error.delay
      cases hseconds : error.retryAfterSeconds with
      | none => rfl
      | some seconds =>
        rw [hseconds] at hall
        change (seconds.isFinite && !seconds.lt (.ofRat 0)) = true at hall
        rw [Bool.and_eq_true] at hall
        change (!seconds.isFinite || seconds.lt (.ofRat 0)) = false
        rw [hall.1]
        simpa using hall.2
    unfold decode
    rw [hparse]
    dsimp only
    rw [if_neg horder, hremote]
    dsimp only
    rw [hdelay]
    rfl

theorem response_some (h : Agreeing codec serverCodec) {id : Nat} (hfirst : 1 < id)
    (hid : id < 2 ^ 64) (result : Result Value) :
    ∃ bytes, serverCodec.response id result = some bytes ∧ 0 < bytes.length
      ∧ bytes.length ≤ maxFrameBytes ∧ ∃ outcome, decode codec bytes = .ok (id, outcome) := by
  have hbounded : ∀ (result : Result Value) (bytes : List UInt8),
      serverCodec.bounded id result = some bytes → 0 < bytes.length
        ∧ bytes.length ≤ maxFrameBytes ∧ ∃ outcome, decode codec bytes = .ok (id, outcome) := by
    intro result bytes hbytes
    unfold ServerCodec.bounded at hbytes
    rw [Option.filter_eq_some_iff] at hbytes
    exact ⟨h.response id result bytes hbytes.1, by simpa using hbytes.2,
      decode_serialized h hfirst hid hbytes.1⟩
  cases hresult : serverCodec.bounded id result with
  | some bytes =>
    refine ⟨bytes, ?_, hbounded result bytes hresult⟩
    unfold ServerCodec.response
    rw [hresult]
    rfl
  | none =>
    obtain ⟨bytes, hserialize, hlength⟩ := h.fallback id hid
    have hfallback : serverCodec.bounded id (.error responseTooLarge) = some bytes := by
      unfold ServerCodec.bounded
      rw [hserialize, Option.filter_eq_some_iff]
      exact ⟨rfl, by simpa using hlength⟩
    refine ⟨bytes, ?_, hbounded _ bytes hfallback⟩
    unfold ServerCodec.response
    rw [hresult]
    exact hfallback

end

namespace Link

/-! ## The invariant -/

variable (codec : Codec Fields Value) (serverCodec : ServerCodec Fields Value) (limits : Limits)

/-- The client runs, with plain commands and numbers to spare. -/
structure Calm (client : Client Fields Value) : Prop where
  held : Client.Held codec limits [] client
  running : client.stage.isOver = false
  stop : client.stop = false
  timely : ∀ entry ∈ client.pending, client.now < entry.2.deadline
  commands : ∀ call ∈ client.calls, call.command.kind ≠ .hello
    ∧ call.command.kind ≠ .cameraImage ∧ Plain codec serverCodec call.command
  numbers : client.nextId + client.queue.length ≤ client.calls.length + 2

/-- The server serves, and has one response or one task for each request that it polled. -/
structure Steady (server : Server) : Prop where
  greeted : server.greeted = true
  serving : server.stage = .running ∨ server.stage = .writing .serve
  framed : Framed server.responses
  idle : server.stage = .running → ∀ response ∈ server.responses,
    response.written = response.bytes.length
  replies : ∀ response ∈ server.responses, ∃ body outcome,
    response.bytes = header body ++ body ∧ decode codec body = .ok (response.id, outcome)
  answered : (server.tasks ++ server.responses.map Frame.id).Perm server.polled

/-- The server has polled the first frames of the client, and the client waits for the requests
whose responses it has not read. -/
structure Joined (link : Link Fields Value) : Prop where
  up : Feed link.client.frames link.server.polled.length link.serverRead
  polled : link.server.polled
    = (link.client.frames.map Frame.id).take link.server.polled.length
  later : ∀ id ∈ (link.client.frames.map Frame.id).drop link.server.polled.length,
    link.server.lastId < id
  last : link.server.lastId < link.client.nextId
  down : ∃ count, Feed link.server.responses count link.clientRead
    ∧ (link.client.pending.map Prod.fst
        ++ (link.server.responses.map Frame.id).take count).Perm (link.client.frames.map Frame.id)

structure Linked (link : Link Fields Value) : Prop where
  calm : Calm codec serverCodec limits link.client
  steady : Steady codec link.server
  joined : Joined link

variable {codec serverCodec limits} {link : Link Fields Value}

theorem Calm.framed (h : Calm codec serverCodec limits link.client)
    (hagree : Agreeing codec serverCodec) (hlimits : limits.maxFrame = maxFrameBytes) :
    Framed link.client.frames := { h.held with
  bodies := by
    intro frame hmem
    obtain ⟨call, bytes, -, hencode, hbytes⟩ := h.held.content frame hmem
    refine ⟨bytes, hbytes, ?_⟩
    unfold encode at hencode
    split at hencode
    · cases hencode
    · next serialized hserialize =>
      split at hencode
      · cases hencode
      · next hlength =>
        cases hencode
        rw [hlimits] at hlength
        exact ⟨hagree.request _ _ _ hserialize, by omega⟩ }

theorem Linked.client (h : Linked codec serverCodec limits link) {client : Client Fields Value}
    (hcalm : Calm codec serverCodec limits client)
    (hids : client.frames.map Frame.id = link.client.frames.map Frame.id)
    (hpending : client.pending = link.client.pending) (hnext : link.client.nextId ≤ client.nextId)
    (hup : Feed client.frames link.server.polled.length link.serverRead) :
    Linked codec serverCodec limits { link with client := client } where
  calm := hcalm
  steady := h.steady
  joined := by
    constructor
    case up => exact hup
    case polled =>
      change link.server.polled = (client.frames.map Frame.id).take link.server.polled.length
      rw [hids]
      exact h.joined.polled
    case later =>
      change ∀ id ∈ (client.frames.map Frame.id).drop link.server.polled.length, _
      rw [hids]
      exact h.joined.later
    case last => exact Nat.lt_of_lt_of_le h.joined.last hnext
    case down =>
      change ∃ count, Feed link.server.responses count link.clientRead
        ∧ (client.pending.map Prod.fst
          ++ (link.server.responses.map Frame.id).take count).Perm (client.frames.map Frame.id)
      rw [hids, hpending]
      exact h.joined.down

theorem request_calm (h : Calm codec serverCodec limits link.client) {command : Command Fields}
    (hplain : Plain codec serverCodec command) (deadline : Nat) :
    Calm codec serverCodec limits (link.client.request limits command deadline).2
      ∧ (link.client.request limits command deadline).2.frames = link.client.frames
      ∧ (link.client.request limits command deadline).2.pending = link.client.pending
      ∧ (link.client.request limits command deadline).2.nextId = link.client.nextId := by
  have hheld := (Client.request_held h.held command deadline).1
  unfold Client.request at hheld ⊢
  split
  · exact ⟨h, rfl, rfl, rfl⟩
  · split
    · exact ⟨h, rfl, rfl, rfl⟩
    · split
      · exact ⟨h, rfl, rfl, rfl⟩
      · split
        · exact ⟨h, rfl, rfl, rfl⟩
        · next hconnected hadvertised hcapacity hroom =>
          rw [if_neg hconnected, if_neg hadvertised, if_neg hcapacity, if_neg hroom] at hheld
          refine ⟨⟨hheld, h.running, h.stop, h.timely, ?_, ?_⟩, rfl, rfl, rfl⟩
          · intro call hmem
            rcases List.mem_append.mp hmem with hold | hnew
            · exact h.commands call hold
            · rw [List.mem_singleton.mp hnew]
              refine ⟨fun hhello => hadvertised (.inl hhello),
                fun himage => hadvertised (.inr (.inl himage)), hplain⟩
          · have hnumbers := h.numbers
            simp only [List.length_append, List.length_singleton]
            omega

theorem drop_calm (h : Calm codec serverCodec limits link.client) (call : Nat) :
    Calm codec serverCodec limits (link.client.drop call) := by
  refine ⟨(Client.drop_held h.held call).1, h.running, h.stop, h.timely, ?_, ?_⟩
  · intro found hmem
    obtain ⟨index, hindex⟩ := List.getElem?_of_mem hmem
    simp only [Client.drop, List.getElem?_modify, Option.map_eq_map,
      Option.map_eq_some_iff] at hindex
    obtain ⟨old, hold, rfl⟩ := hindex
    have hcommand := h.commands old (List.mem_of_getElem? hold)
    split <;> exact hcommand
  · simp only [Client.drop, List.length_modify]
    exact h.numbers

theorem tick_calm (h : Calm codec serverCodec limits link.client) {elapsed : Nat}
    (htimely : link.isTimely elapsed = true) :
    Calm codec serverCodec limits { link.client with now := link.client.now + elapsed } := by
  refine { h with held := ?_, timely := ?_ }
  · exact (Client.step_held h.held (.tick elapsed)).1
  · intro entry hmem
    have hentry := List.all_eq_true.mp htimely entry hmem
    simpa using hentry

theorem not_expired (h : Calm codec serverCodec limits link.client) :
    link.client.expired = false := by
  unfold Client.expired
  rw [List.any_eq_false]
  intro entry hmem
  have htimely := h.timely entry hmem
  simp only [decide_eq_true_eq]
  omega

/-! ## Requests -/

theorem refuse_commands (client : Client Fields Value) (index : Nat) (error : ClientError) :
    (∀ call' ∈ (client.refuse index error).calls, ∃ call ∈ client.calls,
        call'.command = call.command)
      ∧ (client.refuse index error).calls.length = client.calls.length := by
  constructor
  · intro call' hmem
    obtain ⟨other, hother⟩ := List.getElem?_of_mem hmem
    obtain ⟨call, hcall, hcommand, -⟩ := Client.send_calls hother
    exact ⟨call, List.mem_of_getElem? hcall, hcommand⟩
  · simp [Client.refuse, Client.release, Client.send]

/-- A request leaves the queue: it is skipped or refused, or its frame is begun. -/
theorem take_cases (codec : Codec Fields Value) (limits : Limits) (client : Client Fields Value)
    (request : Incoming Fields) (hnumber : client.nextId + 1 < 2 ^ 64) :
    (∃ calls nextId, client.take codec limits request
        = { client with calls := calls, capacity := client.capacity + 1, nextId := nextId }
      ∧ client.nextId ≤ nextId ∧ nextId ≤ client.nextId + 1
      ∧ (∀ call' ∈ calls, ∃ call ∈ client.calls, call'.command = call.command)
      ∧ calls.length = client.calls.length)
    ∨ ∃ bytes, client.take codec limits request
        = ({ client with nextId := client.nextId + 1 }).dispatch limits client.nextId request bytes
      ∧ client.now < request.deadline := by
  unfold Client.take
  split
  · exact .inl ⟨client.calls, client.nextId, rfl, Nat.le_refl _, Nat.le_succ _,
      fun call hmem => ⟨call, hmem, rfl⟩, rfl⟩
  · split
    · exact .inl ⟨_, client.nextId, rfl, Nat.le_refl _, Nat.le_succ _, refuse_commands client _ _⟩
    · next hdeadline =>
      split
      · next hoverflow => omega
      · dsimp only
        split
        · exact .inl ⟨_, client.nextId + 1, rfl, Nat.le_succ _, Nat.le_refl _,
            refuse_commands { client with nextId := client.nextId + 1 } _ _⟩
        · next bytes _ => exact .inr ⟨bytes, rfl, by omega⟩

theorem Linked.dispatch (h : Linked codec serverCodec limits link) {client : Client Fields Value}
    (hcalm : Calm codec serverCodec limits client) {frame : Frame} {pending : Pending}
    (hframes : client.frames = link.client.frames ++ [frame]) (hid : frame.id = link.client.nextId)
    (hpending : client.pending = link.client.pending ++ [(link.client.nextId, pending)])
    (hnext : client.nextId = link.client.nextId + 1) :
    Linked codec serverCodec limits { link with client := client } where
  calm := hcalm
  steady := h.steady
  joined := by
    have hids : client.frames.map Frame.id
        = link.client.frames.map Frame.id ++ [link.client.nextId] := by
      rw [hframes, List.map_append, List.map_singleton, hid]
    have hle : link.server.polled.length ≤ (link.client.frames.map Frame.id).length := by
      rw [List.length_map]
      exact h.joined.up.le
    constructor
    case up =>
      change Feed client.frames _ _
      rw [hframes]
      exact h.joined.up.append _
    case polled =>
      change link.server.polled = (client.frames.map Frame.id).take link.server.polled.length
      rw [hids, List.take_append_of_le_length hle]
      exact h.joined.polled
    case later =>
      change ∀ id ∈ (client.frames.map Frame.id).drop link.server.polled.length, _
      rw [hids, List.drop_append_of_le_length hle]
      intro id hmem
      rcases List.mem_append.mp hmem with hold | hnew
      · exact h.joined.later id hold
      · rw [List.mem_singleton.mp hnew]
        exact h.joined.last
    case last =>
      change link.server.lastId < client.nextId
      rw [hnext]
      exact Nat.lt_succ_of_lt h.joined.last
    case down =>
      obtain ⟨count, hfeed, hperm⟩ := h.joined.down
      refine ⟨count, hfeed, ?_⟩
      change (client.pending.map Prod.fst ++ _).Perm (client.frames.map Frame.id)
      rw [hids, hpending, List.map_append, List.append_assoc]
      refine (List.Perm.append_left _ List.perm_append_comm).trans ?_
      rw [← List.append_assoc]
      exact hperm.append_right _

theorem pump_request (h : Calm codec serverCodec limits link.client)
    (hselecting : link.client.stage = .selecting) {request : Incoming Fields}
    {queue : List (Incoming Fields)} (hqueue : link.client.queue = request :: queue) :
    link.client.pump codec limits .request
      = ({ link.client with queue := queue }).take codec limits request := by
  have hstop : ¬link.client.stop = true := by simp [h.stop]
  have hexpired : ¬link.client.expired = true := by simp [not_expired h]
  unfold Client.pump
  split
  · rw [if_neg hstop, if_neg hexpired]
    dsimp only
    split
    · next hnil =>
      rw [hqueue] at hnil
      cases hnil
    · next found rest hfound =>
      rw [hqueue] at hfound
      cases hfound
      rfl
  all_goals
    next hother =>
      rw [hselecting] at hother
      cases hother

theorem dequeue_linked (h : Linked codec serverCodec limits link)
    (hroom : link.client.calls.length + 2 < 2 ^ 64) (hselecting : link.client.stage = .selecting) :
    Linked codec serverCodec limits (link.pump codec limits .request) := by
  have hheld := (Client.pump_held h.calm.held .request).1
  have hnumbers := h.calm.numbers
  unfold Link.pump
  cases hqueue : link.client.queue with
  | nil =>
    have hpump : link.client.pump codec limits .request = link.client := by
      unfold Client.pump
      rw [hselecting]
      dsimp only
      rw [h.calm.stop, not_expired h.calm, hqueue]
      rfl
    rw [hpump]
    exact h
  | cons request queue =>
    have hpump : link.client.pump codec limits .request
        = ({ link.client with queue := queue }).take codec limits request :=
      pump_request h.calm hselecting hqueue
    rw [hqueue, List.length_cons] at hnumbers
    have hcases := take_cases codec limits { link.client with queue := queue } request
      (show link.client.nextId + 1 < 2 ^ 64 by omega)
    rw [hpump] at hheld ⊢
    rcases hcases with ⟨calls, nextId, htake, hlow, hhigh, hcommands, hlength⟩ |
      ⟨bytes, htake, hdeadline⟩
    · rw [htake] at hheld ⊢
      refine h.client ⟨hheld, ?_, h.calm.stop, h.calm.timely, ?_, ?_⟩ rfl rfl hlow h.joined.up
      · change link.client.stage.isOver = false
        exact h.calm.running
      · intro call' hmem
        obtain ⟨call, hcall, hcommand⟩ := hcommands call' hmem
        rw [hcommand]
        exact h.calm.commands call hcall
      · change nextId + queue.length ≤ calls.length + 2
        change nextId ≤ link.client.nextId + 1 at hhigh
        change calls.length = link.client.calls.length at hlength
        omega
    · rw [htake] at hheld ⊢
      refine h.dispatch ⟨hheld, rfl, h.calm.stop, ?_, h.calm.commands, ?_⟩ rfl rfl rfl rfl
      · intro entry hmem
        rcases List.mem_append.mp hmem with hold | hnew
        · exact h.calm.timely entry hold
        · rw [List.mem_singleton.mp hnew]
          exact hdeadline
      · change link.client.nextId + 1 + queue.length ≤ link.client.calls.length + 2
        omega

theorem write_linked (h : Linked codec serverCodec limits link) {deadline : Nat}
    (hwriting : link.client.stage = .writing deadline) (count : Nat) :
    Linked codec serverCodec limits (link.pump codec limits (.wrote count)) := by
  have hheld := (Client.pump_held h.calm.held (.wrote count)).1
  have hpump : link.client.pump codec limits (.wrote count) = link.client.advance count := by
    unfold Client.pump
    rw [hwriting]
    dsimp only
    rw [h.calm.stop]
    rfl
  unfold Link.pump
  rw [hpump] at hheld ⊢
  refine h.client { h.calm with held := hheld } ?_ rfl (Nat.le_refl _) (h.joined.up.advance count)
  exact ids_advanceLast _ _

theorem flush_linked (h : Linked codec serverCodec limits link) {deadline : Nat}
    (hwriting : link.client.stage = .writing deadline) :
    Linked codec serverCodec limits (link.pump codec limits .flushed) := by
  have hheld := (Client.pump_held h.calm.held .flushed).1
  have hpump : link.client.pump codec limits .flushed
      = if link.client.isWritten then link.client.enter .selecting else link.client := by
    unfold Client.pump
    rw [hwriting]
    dsimp only
    rw [h.calm.stop]
    rfl
  unfold Link.pump
  rw [hpump] at hheld ⊢
  by_cases hwritten : link.client.isWritten = true
  · rw [if_pos hwritten] at hheld ⊢
    exact h.client { h.calm with held := hheld, running := rfl }
      rfl rfl (Nat.le_refl _) h.joined.up
  · rw [if_neg hwritten]
    exact h

/-! ## Responses -/

variable {id : Nat} {body : List UInt8}

theorem body_unique {other : List UInt8} (hbytes : header body ++ body = header other ++ other) :
    body = other :=
  (List.append_inj hbytes rfl).2

theorem Linked.id_bounds (h : Linked codec serverCodec limits link)
    (hroom : link.client.calls.length + 2 < 2 ^ 64) (hmem : id ∈ link.client.frames.map Frame.id) :
    1 < id ∧ id < 2 ^ 64 := by
  obtain ⟨frame, hframe, rfl⟩ := List.mem_map.mp hmem
  have hbounds := h.calm.held.bounds frame hframe
  have hnumbers := h.calm.numbers
  omega

theorem Linked.nodup_ids (h : Linked codec serverCodec limits link) :
    (link.client.frames.map Frame.id).Pairwise (· < ·) := by
  rw [List.pairwise_map]
  exact h.calm.held.order.imp fun hboth => hboth.1

theorem Linked.polled_subset (h : Linked codec serverCodec limits link)
    (hmem : id ∈ link.server.polled) : id ∈ link.client.frames.map Frame.id := by
  rw [h.joined.polled] at hmem
  exact List.mem_of_mem_take hmem

/-- The server has fewer tasks than the client has permits when one more request comes in. -/
theorem Linked.tasks_lt (h : Linked codec serverCodec limits link)
    (hlimits : limits.maxInFlight ≤ maxInFlight)
    (hmore : link.server.polled.length < link.client.frames.length) :
    link.server.tasks.length < maxInFlight := by
  obtain ⟨count, hfeed, hperm⟩ := h.joined.down
  have hanswered := h.steady.answered.length_eq
  have hwaiting := hperm.length_eq
  have hcount := hfeed.le
  have hpermits := h.calm.held.permits
  simp only [List.append_nil, Client.waiting, Client.queuedCalls, Client.pendingCalls,
    List.length_append, List.length_map, List.length_take] at hanswered hwaiting hpermits
  omega

theorem respond_eq (hagree : Agreeing codec serverCodec) (hid : 1 < id ∧ id < 2 ^ 64)
    (server : Server) (result : Result Value) :
    ∃ body outcome, server.respond serverCodec id result .serve
        = { server with
            responses := server.responses ++ [⟨id, id, header body ++ body, 0⟩]
            stage := .writing .serve }
      ∧ 0 < body.length ∧ body.length ≤ maxFrameBytes
      ∧ decode codec body = .ok (id, outcome) := by
  obtain ⟨body, hbody, hpos, hlength, outcome, hdecode⟩ := response_some hagree hid.1 hid.2 result
  refine ⟨body, outcome, ?_, hpos, hlength, hdecode⟩
  unfold Server.respond
  rw [hbody]

theorem respond_steady (hagree : Agreeing codec serverCodec) {id : Nat}
    (hid : 1 < id ∧ id < 2 ^ 64) (server : Server) (result : Result Value)
    (hgreeted : server.greeted = true) (hframed : Framed server.responses)
    (hwhole : ∀ response ∈ server.responses, response.written = response.bytes.length)
    (hreplies : ∀ response ∈ server.responses, ∃ body outcome,
      response.bytes = header body ++ body ∧ decode codec body = .ok (response.id, outcome))
    (hanswered : (server.tasks ++ (server.responses.map Frame.id ++ [id])).Perm server.polled) :
    Steady codec (server.respond serverCodec id result .serve)
      ∧ ∃ frame, (server.respond serverCodec id result .serve).responses
          = server.responses ++ [frame]
        ∧ (server.respond serverCodec id result .serve).polled = server.polled
        ∧ (server.respond serverCodec id result .serve).lastId = server.lastId := by
  obtain ⟨body, outcome, hrespond, hpos, hlength, hdecode⟩ := respond_eq hagree hid server result
  rw [hrespond]
  refine ⟨⟨hgreeted, .inr rfl, ?_, fun hrunning => (by cases hrunning), ?_, ?_⟩, _, rfl, rfl, rfl⟩
  · exact hframed.append hwhole ⟨body, rfl, hpos, hlength⟩ rfl
  · intro response hmem
    rcases List.mem_append.mp hmem with hold | hnew
    · exact hreplies response hold
    · rw [List.mem_singleton.mp hnew]
      exact ⟨body, outcome, rfl, hdecode⟩
  · change (server.tasks ++ (server.responses ++ [_]).map Frame.id).Perm server.polled
    rw [List.map_append, List.map_singleton]
    exact hanswered

theorem Joined.server (h : Joined link) {server : Server}
    (hpolled : server.polled = link.server.polled) (hlast : server.lastId = link.server.lastId)
    {later : List Frame} (hresponses : server.responses = link.server.responses ++ later) :
    Joined { link with server := server } := by
  constructor
  case up =>
    change Feed _ server.polled.length _
    rw [hpolled]
    exact h.up
  case polled =>
    change server.polled = List.take server.polled.length _
    rw [hpolled]
    exact h.polled
  case later =>
    change ∀ id ∈ List.drop server.polled.length _, server.lastId < id
    rw [hpolled, hlast]
    exact h.later
  case last =>
    change server.lastId < _
    rw [hlast]
    exact h.last
  case down =>
    obtain ⟨count, hfeed, hperm⟩ := h.down
    refine ⟨count, ?_, ?_⟩
    · change Feed server.responses count _
      rw [hresponses]
      exact hfeed.append later
    · change (_ ++ (server.responses.map Frame.id).take count).Perm _
      rw [hresponses, List.map_append, List.take_append_of_le_length]
      · exact hperm
      · rw [List.length_map]
        exact hfeed.le

theorem complete_linked (h : Linked codec serverCodec limits link)
    (hagree : Agreeing codec serverCodec) (hroom : link.client.calls.length + 2 < 2 ^ 64)
    (number : Nat) (result : Result Value) :
    Linked codec serverCodec limits
      { link with server := link.server.complete serverCodec number result } := by
  unfold Server.complete
  split
  · next id hrunning htask =>
    have hmem : id ∈ link.server.tasks := List.mem_of_getElem? htask
    have hid := h.id_bounds hroom
      (h.polled_subset (h.steady.answered.subset (List.mem_append_left _ hmem)))
    obtain ⟨hlt, hget⟩ := List.getElem?_eq_some_iff.mp htask
    have hperm : ((link.server.tasks.eraseIdx number)
        ++ (link.server.responses.map Frame.id ++ [id])).Perm link.server.polled := by
      refine List.Perm.trans ?_ h.steady.answered
      have htasks := List.getElem_cons_eraseIdx_perm hlt
      rw [hget] at htasks
      rw [← List.append_assoc]
      refine (List.perm_append_singleton _ _).trans ?_
      exact htasks.append_right _
    obtain ⟨hsteady, frame, hresponses, hpolled, hlast⟩ :=
      respond_steady hagree hid { link.server with tasks := link.server.tasks.eraseIdx number }
        result h.steady.greeted h.steady.framed (h.steady.idle hrunning)
        h.steady.replies hperm
    exact ⟨h.calm, hsteady, h.joined.server hpolled hlast hresponses⟩
  · exact h

theorem advanceLast_whole {frames : List Frame}
    (hwhole : ∀ frame ∈ frames, frame.written = frame.bytes.length) (count : Nat) :
    ∀ frame ∈ advanceLast frames count, frame.written = frame.bytes.length := by
  intro frame' hmem
  obtain ⟨index, hindex⟩ := List.getElem?_of_mem hmem
  rw [getElem?_advanceLast, Option.map_eq_some_iff] at hindex
  obtain ⟨frame, hframe, rfl⟩ := hindex
  have hframe := hwhole frame (List.mem_of_getElem? hframe)
  split
  · dsimp only
    omega
  · exact hframe

theorem respond_linked (h : Linked codec serverCodec limits link) (count : Nat) :
    Linked codec serverCodec limits { link with server := link.server.write count } := by
  refine ⟨h.calm, ⟨h.steady.greeted, h.steady.serving, h.steady.framed.advance count, ?_, ?_, ?_⟩,
    { h.joined with down := ?_ }⟩
  · exact fun hrunning => advanceLast_whole (h.steady.idle hrunning) count
  · intro response' hmem
    obtain ⟨response, hresponse, -, hid, hbytes, -⟩ := mem_advanceLast hmem
    rw [hid, hbytes]
    exact h.steady.replies response hresponse
  · change (_ ++ (advanceLast link.server.responses count).map Frame.id).Perm _
    rw [ids_advanceLast]
    exact h.steady.answered
  · obtain ⟨read, hfeed, hperm⟩ := h.joined.down
    refine ⟨read, hfeed.advance count, ?_⟩
    change (_ ++ ((advanceLast link.server.responses count).map Frame.id).take read).Perm _
    rw [ids_advanceLast]
    exact hperm

theorem responded_linked (h : Linked codec serverCodec limits link) :
    Linked codec serverCodec limits { link with server := link.server.flush } := by
  unfold Server.flush
  split
  · next hwritten =>
    rcases h.steady.serving with hrunning | hwriting
    · rw [hrunning]
      exact h
    · rw [hwriting]
      refine ⟨h.calm, ⟨h.steady.greeted, .inl rfl, h.steady.framed,
        fun _ => h.steady.framed.all_whole hwritten, h.steady.replies, h.steady.answered⟩,
        h.joined.server rfl rfl (List.append_nil _).symm⟩
  · exact h

theorem Linked.not_ended (h : Linked codec serverCodec limits link) :
    link.server.isEnded = false := by
  unfold Server.isEnded
  rcases h.steady.serving with hrunning | hwriting
  · rw [hrunning]
  · rw [hwriting]

theorem Linked.not_dropped (h : Linked codec serverCodec limits link) : link.isDropped = false := by
  have hover := h.calm.running
  unfold isDropped
  cases hstage : link.client.stage with
  | draining =>
    rw [hstage] at hover
    cases hover
  | ended =>
    rw [hstage] at hover
    cases hover
  | _ => rfl

theorem Linked.poll (h : Linked codec serverCodec limits link) {frame : Frame} {body : List UInt8}
    (hframe : link.client.frames[link.server.polled.length]? = some frame)
    (hup : Feed link.client.frames (link.server.polled.length + 1)
      (link.serverRead + (4 + body.length))) {server : Server} (hsteady : Steady codec server)
    (hpolled : server.polled = link.server.polled ++ [frame.id]) (hlast : server.lastId = frame.id)
    {later : List Frame} (hresponses : server.responses = link.server.responses ++ later) :
    Linked codec serverCodec limits
      { link with server := server, serverRead := link.serverRead + (4 + body.length) } := by
  have hid : (link.client.frames.map Frame.id)[link.server.polled.length]? = some frame.id := by
    rw [List.getElem?_map, hframe]
    rfl
  have hlength : server.polled.length = link.server.polled.length + 1 := by
    rw [hpolled, List.length_append, List.length_singleton]
  refine ⟨h.calm, hsteady, ?_⟩
  constructor
  case up =>
    change Feed _ server.polled.length _
    rw [hlength]
    exact hup
  case polled =>
    change server.polled = List.take server.polled.length _
    rw [hlength, List.take_add_one, hid, ← h.joined.polled]
    exact hpolled
  case later =>
    change ∀ id ∈ List.drop server.polled.length _, server.lastId < id
    rw [hlength, hlast]
    have hlt := (List.getElem?_eq_some_iff.mp hid).1
    have hdrop := List.drop_eq_getElem_cons hlt
    rw [(List.getElem?_eq_some_iff.mp hid).2] at hdrop
    have hordered := h.nodup_ids.sublist (List.drop_sublist link.server.polled.length _)
    rw [hdrop, List.pairwise_cons] at hordered
    exact hordered.1
  case last =>
    change server.lastId < _
    rw [hlast]
    exact (h.calm.held.bounds frame (List.mem_of_getElem? hframe)).2
  case down =>
    obtain ⟨count, hfeed, hperm⟩ := h.joined.down
    refine ⟨count, ?_, ?_⟩
    · change Feed server.responses count _
      rw [hresponses]
      exact hfeed.append later
    · change (_ ++ (server.responses.map Frame.id).take count).Perm _
      rw [hresponses, List.map_append, List.take_append_of_le_length]
      · exact hperm
      · rw [List.length_map]
        exact hfeed.le

theorem receive_linked (h : Linked codec serverCodec limits link)
    (hagree : Agreeing codec serverCodec) (hlimits : limits.maxInFlight ≤ maxInFlight)
    (hroom : link.client.calls.length + 2 < 2 ^ 64) (hrunning : link.server.stage = .running)
    {frame : Frame} {body : List UInt8}
    (hframe : link.client.frames[link.server.polled.length]? = some frame)
    (hbytes : frame.bytes = header body ++ body)
    (hup : Feed link.client.frames (link.server.polled.length + 1)
      (link.serverRead + (4 + body.length))) (served : Served Value) :
    Linked codec serverCodec limits
      { link with
        server := link.server.receive serverCodec body served
        serverRead := link.serverRead + (4 + body.length) } := by
  have hmem := List.mem_of_getElem? hframe
  obtain ⟨call, bytes, hcall, hencode, hcontent⟩ := h.calm.held.content frame hmem
  have hbody : body = bytes := body_unique (hbytes.symm.trans hcontent)
  subst hbody
  have hserialize : codec.serialize frame.id call.command = some body := by
    unfold encode at hencode
    split at hencode
    · cases hencode
    · next serialized hserialized =>
      split at hencode <;> cases hencode
      exact hserialized
  obtain ⟨hhello, himage, hplain⟩ := h.calm.commands call (List.mem_of_getElem? hcall)
  have hid := h.id_bounds hroom (List.mem_map_of_mem hmem)
  have hlater : link.server.lastId < frame.id := by
    refine h.joined.later frame.id ?_
    refine List.mem_of_getElem? (i := 0) ?_
    rw [List.getElem?_drop, List.getElem?_map]
    change Option.map _ link.client.frames[link.server.polled.length]? = _
    rw [hframe]
    rfl
  have hlt := (List.getElem?_eq_some_iff.mp hframe).1
  have htasks := h.tasks_lt hlimits hlt
  have hperm : ((link.server.tasks ++ link.server.responses.map Frame.id) ++ [frame.id]).Perm
      (link.server.polled ++ [frame.id]) := h.steady.answered.append_right _
  have hreceive : link.server.receive serverCodec body served
      = link.server.accept serverCodec frame.id served := by
    unfold Server.receive
    rw [hplain.readable frame.id body hid.2 hserialize]
    dsimp only
    rw [if_neg (fun hversion => hversion rfl), if_neg (by omega)]
    unfold Server.handle
    dsimp only
    have hgreeted : ¬(!link.server.greeted) = true := by simp [h.steady.greeted]
    rw [if_neg hgreeted, if_neg hhello, if_neg himage, if_neg hplain.kind]
    refine (if_neg (by omega)).trans ?_
    unfold Server.accept
    cases served.ready <;> rfl
  rw [hreceive]
  unfold Server.accept
  cases served.ready with
  | some result =>
    obtain ⟨hsteady, later, hresponses, hpolled, hlast⟩ :=
      respond_steady hagree hid { link.server with
        lastId := frame.id
        polled := link.server.polled ++ [frame.id] } result h.steady.greeted h.steady.framed
        (h.steady.idle hrunning) h.steady.replies (by rw [← List.append_assoc]; exact hperm)
    exact h.poll hframe hup hsteady hpolled hlast hresponses
  | none =>
    refine h.poll hframe hup { h.steady with answered := ?_ } rfl rfl (List.append_nil _).symm
    change ((link.server.tasks ++ [frame.id]) ++ link.server.responses.map Frame.id).Perm _
    refine List.Perm.trans ?_ hperm
    rw [List.append_assoc, List.append_assoc]
    exact List.Perm.append_left _ List.perm_append_comm

theorem serve_linked (h : Linked codec serverCodec limits link)
    (hagree : Agreeing codec serverCodec) (hlimits : limits.maxInFlight ≤ maxInFlight)
    (hframe : limits.maxFrame = maxFrameBytes) (hroom : link.client.calls.length + 2 < 2 ^ 64)
    (served : Served Value) : Linked codec serverCodec limits (link.serve serverCodec served) := by
  unfold Link.serve
  rw [h.not_dropped]
  rcases h.joined.up.next (h.calm.framed hagree hframe) with hwaiting |
    ⟨frame, body, hsome, hbytes, hread, hfeed⟩
  · have hdelivered : delivered link.requests false = none := by
      unfold delivered requests
      rw [hwaiting]
      rfl
    rw [hdelivered]
    rcases h.steady.serving with hrunning | hwriting
    · rw [hrunning]
      exact h
    · rw [hwriting]
      exact h
  · have hdelivered : delivered link.requests false = some (.ok (some body)) := by
      unfold delivered requests
      rw [hread]
    rw [hdelivered]
    rcases h.steady.serving with hrunning | hwriting
    · have hnext := receive_linked h hagree hlimits hroom hrunning hsome hbytes hfeed served
      rw [hrunning]
      exact hnext
    · rw [hwriting]
      exact h

theorem Linked.next_pending (h : Linked codec serverCodec limits link) {count : Nat}
    (hperm : (link.client.pending.map Prod.fst
      ++ (link.server.responses.map Frame.id).take count).Perm (link.client.frames.map Frame.id))
    {response : Frame} (hresponse : link.server.responses[count]? = some response) :
    ∃ entry ∈ link.client.pending, entry.1 = response.id := by
  have hid : (link.server.responses.map Frame.id)[count]? = some response.id := by
    rw [List.getElem?_map, hresponse]
    rfl
  have hpolled : response.id ∈ link.server.polled :=
    h.steady.answered.subset (List.mem_append_right _ (List.mem_of_getElem? hid))
  have hsent := hperm.symm.subset (h.polled_subset hpolled)
  have hnodup : (link.server.responses.map Frame.id).Nodup := by
    have hids : (link.client.frames.map Frame.id).Nodup :=
      h.nodup_ids.imp fun hlt => Nat.ne_of_lt hlt
    have hall : link.server.polled.Nodup := by
      rw [h.joined.polled]
      exact hids.sublist (List.take_sublist _ _)
    exact ((h.steady.answered.nodup_iff.mpr hall).of_append_right)
  have hfresh : response.id ∉ (link.server.responses.map Frame.id).take count := by
    have htake := (List.take_sublist (count + 1) (link.server.responses.map Frame.id)).nodup hnodup
    rw [List.take_add_one, hid] at htake
    have hlast := (List.nodup_append.mp htake).2.2
    intro hmem
    exact hlast _ hmem _ (List.mem_singleton_self _) rfl
  rcases List.mem_append.mp hsent with hpending | hread
  · obtain ⟨entry, hentry, heq⟩ := List.mem_map.mp hpending
    exact ⟨entry, hentry, heq⟩
  · exact absurd hread hfresh

theorem pump_reply (h : Calm codec serverCodec limits link.client)
    (hselecting : link.client.stage = .selecting) (hlength : body.length ≤ limits.maxFrame)
    {outcome : Outcome Value} (hdecode : decode codec body = .ok (id, outcome))
    {entry : Nat × Pending} (hentry : entry ∈ link.client.pending) (hid : entry.1 = id) :
    ∃ found : Nat × Pending, link.client.pump codec limits (.frame (some (.ok (some body))))
        = ((link.client.remove id).send found.2.reply outcome).release := by
  have hstop : ¬link.client.stop = true := by simp [h.stop]
  have hexpired : ¬link.client.expired = true := by simp [not_expired h]
  have hreceive : link.client.pump codec limits (.frame (some (.ok (some body))))
      = link.client.reply codec body := by
    unfold Client.pump
    split
    · rw [if_neg hstop, if_neg hexpired]
      dsimp only
      unfold Client.receive
      dsimp only
      rw [if_pos hlength]
    all_goals
      next hother =>
        rw [hselecting] at hother
        cases hother
  rw [hreceive]
  unfold Client.reply
  rw [hdecode]
  dsimp only
  split
  · next hnone =>
    have hother := List.find?_eq_none.mp hnone entry hentry
    simp [hid] at hother
  · next found _ => exact ⟨found, rfl⟩

theorem reply_linked (h : Linked codec serverCodec limits link)
    (hselecting : link.client.stage = .selecting) (hlimits : limits.maxFrame = maxFrameBytes)
    {count : Nat} (hperm : (link.client.pending.map Prod.fst
      ++ (link.server.responses.map Frame.id).take count).Perm (link.client.frames.map Frame.id))
    {response : Frame} (hresponse : link.server.responses[count]? = some response)
    {body : List UInt8} (hbytes : response.bytes = header body ++ body)
    (hnext : Feed link.server.responses (count + 1) (link.clientRead + (4 + body.length))) :
    Linked codec serverCodec limits
      { link.pump codec limits (.frame (some (.ok (some body)))) with
        clientRead := link.clientRead + (4 + body.length) } := by
  have hmem := List.mem_of_getElem? hresponse
  obtain ⟨found, outcome, hfound, hdecode⟩ := h.steady.replies response hmem
  obtain ⟨framed, hframed, -, hlength⟩ := h.steady.framed.bodies response hmem
  have hsame : body = found := body_unique (hbytes.symm.trans hfound)
  have hsame' : body = framed := body_unique (hbytes.symm.trans hframed)
  subst hsame
  rw [← hsame', ← hlimits] at hlength
  obtain ⟨entry, hentry, hid⟩ := h.next_pending hperm hresponse
  obtain ⟨waiting, hpump⟩ := pump_reply h.calm hselecting hlength hdecode hentry hid
  have hheld := (Client.pump_held h.calm.held (.frame (some (.ok (some body))))).1
  unfold Link.pump
  rw [hpump] at hheld ⊢
  refine ⟨⟨hheld, h.calm.running, h.calm.stop, ?_, ?_, ?_⟩, h.steady, ?_⟩
  · exact fun other hother => h.calm.timely other (List.mem_filter.mp hother).1
  · intro call' hcall'
    obtain ⟨index, hindex⟩ := List.getElem?_of_mem hcall'
    obtain ⟨call, hcall, hcommand, -⟩ := Client.send_calls hindex
    rw [hcommand]
    exact h.calm.commands call (List.mem_of_getElem? hcall)
  · have hnumbers := h.calm.numbers
    simpa [Client.release, Client.send, Client.remove] using hnumbers
  · refine ⟨h.joined.up, h.joined.polled, h.joined.later, h.joined.last, count + 1, hnext, ?_⟩
    have hresponseId : (link.server.responses.map Frame.id)[count]? = some response.id := by
      rw [List.getElem?_map, hresponse]
      rfl
    change ((link.client.pending.filter fun other => other.1 != response.id).map Prod.fst
      ++ (link.server.responses.map Frame.id).take (count + 1)).Perm
        (link.client.frames.map Frame.id)
    refine List.Perm.trans ?_ hperm
    have hremove := (perm_remove h.calm.held.ids hentry).map Prod.fst
    rw [hid, List.map_cons, hid] at hremove
    rw [List.take_add_one, hresponseId]
    have hmove := hremove.append_right ((link.server.responses.map Frame.id).take count)
    refine List.Perm.trans ?_ hmove.symm
    rw [← List.append_assoc]
    exact List.perm_append_singleton _ _

theorem receive_step (h : Linked codec serverCodec limits link)
    (hlimits : limits.maxFrame = maxFrameBytes) :
    Linked codec serverCodec limits (link.receive codec limits) := by
  obtain ⟨count, hfeed, hperm⟩ := h.joined.down
  unfold Link.receive
  rw [h.not_ended]
  rcases hfeed.next h.steady.framed with hwaiting | ⟨response, body, hresponse, hbytes, hread, hnext⟩
  · have hdelivered : delivered link.responses false = none := by
      unfold delivered responses
      rw [hwaiting]
      rfl
    rw [hdelivered]
    split
    · next heq => cases heq
    · exact h
  · have hdelivered : delivered link.responses false = some (.ok (some body)) := by
      unfold delivered responses
      rw [hread]
    rw [hdelivered]
    split
    · next frame hselecting heq =>
      cases heq
      exact reply_linked h hselecting hlimits hperm hresponse hbytes hnext
    · exact h

/-! ## Runs of both ends -/

def Meets (codec : Codec Fields Value) (serverCodec : ServerCodec Fields Value) :
    Op Fields Value → Prop
  | .request command _ => Plain codec serverCodec command
  | _ => True

def Op.asks : Op Fields Value → Bool
  | .request _ _ => true
  | _ => false

/-- The limits that the hello of this server gives a client. -/
structure Hello (limits : Limits) : Prop where
  frame : limits.maxFrame = maxFrameBytes
  flight : limits.maxInFlight = maxInFlight

theorem step_linked (h : Linked codec serverCodec limits link)
    (hagree : Agreeing codec serverCodec) (hhello : Hello limits)
    (hroom : link.client.calls.length + 2 < 2 ^ 64) {op : Op Fields Value}
    (hmeets : Meets codec serverCodec op) :
    Linked codec serverCodec limits (link.step codec serverCodec limits op) := by
  cases op with
  | request command deadline =>
    obtain ⟨hcalm, hframes, hpending, hnext⟩ := request_calm h.calm hmeets deadline
    exact h.client hcalm (by rw [hframes]) hpending (by rw [hnext])
      (by rw [hframes]; exact h.joined.up)
  | drop call => exact h.client (drop_calm h.calm call) rfl rfl (Nat.le_refl _) h.joined.up
  | tick elapsed =>
    change Linked codec serverCodec limits (if link.isTimely elapsed then _ else link)
    split
    · next htimely =>
      exact h.client (tick_calm h.calm htimely) rfl rfl (Nat.le_refl _) h.joined.up
    · exact h
  | dequeue =>
    cases hstage : link.client.stage with
    | selecting =>
      simp only [Link.step, hstage]
      exact dequeue_linked h hroom hstage
    | _ =>
      simp only [Link.step, hstage]
      exact h
  | write count =>
    cases hstage : link.client.stage with
    | writing deadline =>
      simp only [Link.step, hstage]
      exact write_linked h hstage count
    | _ =>
      simp only [Link.step, hstage]
      exact h
  | flush =>
    cases hstage : link.client.stage with
    | writing deadline =>
      simp only [Link.step, hstage]
      exact flush_linked h hstage
    | _ =>
      simp only [Link.step, hstage]
      exact h
  | serve served =>
    exact serve_linked h hagree (Nat.le_of_eq hhello.flight) hhello.frame hroom served
  | complete number result => exact complete_linked h hagree hroom number result
  | respond count => exact respond_linked h count
  | responded => exact responded_linked h
  | receive => exact receive_step h hhello.frame

theorem calls_answerAll (failure : ClientError) (client : Client Fields Value)
    (calls : List (Bool × Nat)) :
    (client.answerAll failure calls).calls.length = client.calls.length := by
  induction calls generalizing client with
  | nil => rfl
  | cons entry rest ih =>
    refine (ih (client.refuse entry.2 (Client.ending failure entry.1))).trans ?_
    exact (refuse_commands client _ _).2

theorem calls_take (client : Client Fields Value) (request : Incoming Fields) :
    (client.take codec limits request).calls.length = client.calls.length := by
  unfold Client.take
  split
  · rfl
  · split
    · exact (refuse_commands client _ _).2
    · split
      · exact (refuse_commands client _ _).2
      · dsimp only
        split
        · exact (refuse_commands { client with nextId := client.nextId + 1 } _ _).2
        · rfl

theorem calls_receive (client : Client Fields Value)
    (frame : Option (Except ProtocolError (Option (List UInt8)))) :
    (client.receive codec limits frame).calls.length = client.calls.length := by
  unfold Client.receive
  split
  · split
    · unfold Client.reply
      split
      · rfl
      · split
        · rfl
        · simp [Client.release, Client.send, Client.remove]
    · rfl
  all_goals rfl

theorem calls_pump (client : Client Fields Value) (event : Event) :
    (client.pump codec limits event).calls.length = client.calls.length := by
  unfold Client.pump
  split
  · split
    · rfl
    · split
      · rfl
      · split
        · exact calls_receive client _
        · split
          · rfl
          · exact calls_take _ _
        · rfl
  · split
    · rfl
    · split
      · rfl
      · split <;> rfl
      · rfl
      · split <;> rfl
  · exact calls_answerAll _ _ _
  · split
    · rfl
    · exact (refuse_commands _ _ _).2
  · rfl

theorem calls_step (codec : Codec Fields Value) (serverCodec : ServerCodec Fields Value)
    (limits : Limits) (link : Link Fields Value) (op : Op Fields Value) :
    (link.step codec serverCodec limits op).client.calls.length
      ≤ link.client.calls.length + if op.asks then 1 else 0 := by
  cases op with
  | request command deadline =>
    change (link.client.request limits command deadline).2.calls.length ≤ _
    unfold Client.request
    split
    · exact Nat.le_add_right _ _
    · split
      · exact Nat.le_add_right _ _
      · split
        · exact Nat.le_add_right _ _
        · split
          · exact Nat.le_add_right _ _
          · simp [Op.asks]
  | drop call =>
    refine Nat.le_of_eq ?_
    change (link.client.drop call).calls.length = _
    simp [Client.drop, Op.asks]
  | tick elapsed =>
    change (if link.isTimely elapsed then _ else link).client.calls.length ≤ _
    split <;> exact Nat.le_refl _
  | dequeue =>
    cases hstage : link.client.stage with
    | selecting =>
      simp only [Link.step, hstage]
      exact Nat.le_of_eq (calls_pump _ _)
    | _ =>
      simp only [Link.step, hstage]
      exact Nat.le_add_right _ _
  | write count =>
    cases hstage : link.client.stage with
    | writing _ =>
      simp only [Link.step, hstage]
      exact Nat.le_of_eq (calls_pump _ _)
    | _ =>
      simp only [Link.step, hstage]
      exact Nat.le_add_right _ _
  | flush =>
    cases hstage : link.client.stage with
    | writing _ =>
      simp only [Link.step, hstage]
      exact Nat.le_of_eq (calls_pump _ _)
    | _ =>
      simp only [Link.step, hstage]
      exact Nat.le_add_right _ _
  | serve served =>
    refine Nat.le_of_eq ?_
    change (link.serve serverCodec served).client.calls.length = _
    unfold Link.serve
    split <;> rfl
  | complete number result => exact Nat.le_refl _
  | respond count => exact Nat.le_refl _
  | responded => exact Nat.le_refl _
  | receive =>
    refine Nat.le_of_eq ?_
    change (link.receive codec limits).client.calls.length = _
    unfold Link.receive
    split
    · exact calls_pump _ _
    · rfl

def machine (codec : Codec Fields Value) (serverCodec : ServerCodec Fields Value)
    (limits : Limits) : Machine (Link Fields Value) (Op Fields Value) Unit where
  step := fun link op => ((), link.step codec serverCodec limits op)

/-- Both ends go on, the requests are polled in the order in which they were sent, and each of them
has one response that the client can read, or is still worked on. -/
structure Agrees (codec : Codec Fields Value) (link : Link Fields Value) : Prop where
  serving : ∀ result, link.server.stage ≠ .ended result
  running : link.client.stage.isOver = false
  ordered : link.server.polled
    = (link.client.frames.map Frame.id).take link.server.polled.length
  distinct : link.server.polled.Nodup
  answered : (link.server.tasks ++ link.server.responses.map Frame.id).Perm link.server.polled
  replies : ∀ response ∈ link.server.responses, ∃ body outcome,
    response.bytes = header body ++ body ∧ decode codec body = .ok (response.id, outcome)

theorem Linked.agrees (h : Linked codec serverCodec limits link) : Agrees codec link where
  serving := by
    intro result hended
    rcases h.steady.serving with hrunning | hwriting
    · rw [hrunning] at hended
      cases hended
    · rw [hwriting] at hended
      cases hended
  running := h.calm.running
  ordered := h.joined.polled
  distinct := by
    rw [h.joined.polled]
    have hids : (link.client.frames.map Frame.id).Nodup :=
      h.nodup_ids.imp fun hlt => Nat.ne_of_lt hlt
    exact hids.sublist (List.take_sublist _ _)
  answered := h.steady.answered
  replies := h.steady.replies

theorem new_linked (codec : Codec Fields Value) (serverCodec : ServerCodec Fields Value)
    (limits : Limits) : Linked codec serverCodec limits (Link.new limits) where
  calm := by
    refine ⟨Client.new_held codec limits, rfl, rfl, ?_, ?_, Nat.le_refl _⟩
    · exact fun _ hmem => by cases hmem
    · exact fun _ hmem => by cases hmem
  steady := by
    refine ⟨rfl, .inl rfl, ⟨?_, ?_, ?_⟩, ?_, ?_, List.Perm.refl _⟩
    · exact fun _ hmem => by cases hmem
    · exact fun _ hmem => by cases hmem
    · exact fun _ hmem => by cases hmem
    · exact fun _ _ hmem => by cases hmem
    · exact fun _ hmem => by cases hmem
  joined := by
    refine ⟨.start, rfl, ?_, Nat.lt_succ_self 1, 0, .start, List.Perm.refl _⟩
    exact fun _ hmem => by cases hmem

theorem run_linked (hagree : Agreeing codec serverCodec) (hhello : Hello limits)
    {ops : List (Op Fields Value)} (h : Linked codec serverCodec limits link)
    (hmeets : ∀ op ∈ ops, Meets codec serverCodec op)
    (hroom : link.client.calls.length + ops.countP Op.asks + 2 < 2 ^ 64) :
    Linked codec serverCodec limits ((machine codec serverCodec limits).final link ops) := by
  induction ops generalizing link with
  | nil => exact h
  | cons op ops ih =>
    have hcalls := calls_step codec serverCodec limits link op
    rw [List.countP_cons] at hroom
    have hstep := step_linked h hagree hhello (by omega) (hmeets op List.mem_cons_self)
    refine ih hstep (fun other hmem => hmeets other (List.mem_cons_of_mem _ hmem)) ?_
    change (link.step codec serverCodec limits op).client.calls.length + _ + 2 < 2 ^ 64
    omega

/-- In every run of a client and a server in which each request is for a plain command, and there
are fewer requests than numbers, the two ends agree. -/
theorem linkAgrees (codec : Codec Fields Value) (serverCodec : ServerCodec Fields Value)
    (limits : Limits) (hagree : Agreeing codec serverCodec) (hhello : Hello limits)
    (ops : List (Op Fields Value)) (hmeets : ∀ op ∈ ops, Meets codec serverCodec op)
    (hroom : ops.countP Op.asks + 2 < 2 ^ 64) :
    Agrees codec ((machine codec serverCodec limits).final (Link.new limits) ops) := by
  refine (run_linked hagree hhello (new_linked codec serverCodec limits) hmeets ?_).agrees
  change 0 + _ + 2 < 2 ^ 64
  omega

/-! ## Two requests -/

def idBytes (id : Nat) : List UInt8 :=
  [UInt8.ofNat id, UInt8.ofNat (id / 2 ^ 8), UInt8.ofNat (id / 2 ^ 16), UInt8.ofNat (id / 2 ^ 24),
    UInt8.ofNat (id / 2 ^ 32), UInt8.ofNat (id / 2 ^ 40), UInt8.ofNat (id / 2 ^ 48),
    UInt8.ofNat (id / 2 ^ 56)]

def ofIdBytes : List UInt8 → Option Nat
  | [a, b, c, d, e, f, g, h] =>
    some (a.toNat + b.toNat * 2 ^ 8 + c.toNat * 2 ^ 16 + d.toNat * 2 ^ 24 + e.toNat * 2 ^ 32
      + f.toNat * 2 ^ 40 + g.toNat * 2 ^ 48 + h.toNat * 2 ^ 56)
  | _ => none

theorem ofIdBytes_idBytes (hid : id < 2 ^ 64) : ofIdBytes (idBytes id) = some id := by
  have hfirst : (UInt8.ofNat id).toNat = id % 256 := by simp
  unfold idBytes
  rw [ofIdBytes, hfirst]
  simp only [toNat_ofNat_div]
  congr 1
  omega

def briefParse (bytes : List UInt8) : Option (Bool × Nat) :=
  if bytes.length = 8 then (ofIdBytes bytes).map fun id => (true, id)
  else (ofIdBytes bytes.tail).map fun id => (false, id)

theorem briefParse_first (hid : id < 2 ^ 64) : briefParse (idBytes id) = some (true, id) := by
  unfold briefParse
  rw [if_pos (by simp [idBytes]), ofIdBytes_idBytes hid]
  rfl

theorem briefParse_second (hid : id < 2 ^ 64) :
    briefParse (0 :: idBytes id) = some (false, id) := by
  unfold briefParse
  rw [if_neg (by simp [idBytes]), List.tail_cons, ofIdBytes_idBytes hid]
  rfl

def briefCodec : Codec Unit Unit where
  serialize := fun id command =>
    match command.kind with
    | .getConfig => some (idBytes id)
    | .cameraGroupImage => some (0 :: idBytes id)
    | _ => none
  parse := fun bytes => (briefParse bytes).map fun (first, id) =>
    if first then ⟨version, id, some (), none⟩ else ⟨version, id, none, some ()⟩
  remote := fun _ => some responseTooLarge.toRemoteError

def briefServer : ServerCodec Unit Unit where
  parse := fun bytes => (briefParse bytes).map fun (first, id) =>
    ⟨version, id, if first then .getConfig else .cameraGroupImage, ()⟩
  serialize
    | id, .ok () => some (idBytes id)
    | id, .error error =>
      match error.toRemoteError with
      | ⟨"responseTooLarge", "Hub response exceeds the frame limit", none, none, []⟩ =>
        some (0 :: idBytes id)
      | _ => none

theorem brief_readable (id : Nat) (command : Command Unit) (bytes : List UInt8) (hid : id < 2 ^ 64)
    (hserialize : briefCodec.serialize id command = some bytes) :
    briefServer.parse bytes = some ⟨version, id, command⟩ := by
  obtain ⟨kind, fields⟩ := command
  cases kind <;> cases hserialize
  case getConfig =>
    simp only [briefServer]
    rw [briefParse_first hid]
    rfl
  case cameraGroupImage =>
    simp only [briefServer]
    rw [briefParse_second hid]
    rfl

theorem brief_error {error : RpcError} {bytes : List UInt8}
    (hserialize : briefServer.serialize id (.error error) = some bytes) :
    bytes = 0 :: idBytes id ∧ error.toRemoteError = responseTooLarge.toRemoteError := by
  simp only [briefServer] at hserialize
  split at hserialize
  · next heq =>
    cases hserialize
    exact ⟨rfl, heq⟩
  · cases hserialize

theorem brief_agreeing : Agreeing briefCodec briefServer where
  request := by
    intro id command bytes hserialize
    obtain ⟨kind, fields⟩ := command
    cases kind <;> cases hserialize <;> exact Nat.succ_pos _
  response := by
    intro id result bytes hserialize
    cases result with
    | ok value =>
      cases hserialize
      exact Nat.succ_pos _
    | error error =>
      rw [(brief_error hserialize).1]
      exact Nat.succ_pos _
  success := by
    intro id value bytes hid hserialize
    cases hserialize
    simp only [briefCodec]
    rw [briefParse_first hid]
    rfl
  failure := by
    intro id error bytes hid hserialize
    obtain ⟨hbytes, herror⟩ := brief_error hserialize
    refine ⟨(), ?_, by rw [herror]; rfl⟩
    rw [hbytes]
    simp only [briefCodec]
    rw [briefParse_second hid]
    rfl
  fallback := by
    intro id _
    refine ⟨0 :: idBytes id, rfl, ?_⟩
    change 9 ≤ maxFrameBytes
    decide

def briefLimits : Limits where
  frameTimeout := 5
  maxFrame := maxFrameBytes
  maxInFlight := maxInFlight
  operations := ["getConfig", "cameraGroupImage"]

def sends (kind : CommandKind) (ready : Option (Result Unit)) : List (Op Unit Unit) :=
  [.request ⟨kind, ()⟩ 9, .dequeue, .write 13, .flush, .serve ⟨(), ready, .ok ((), [])⟩]

theorem sends_meets (ready : Option (Result Unit)) :
    ∀ op ∈ sends .getConfig ready, Meets briefCodec briefServer op := by
  intro op hmem
  simp only [sends, List.mem_cons, List.not_mem_nil, or_false] at hmem
  rcases hmem with rfl | rfl | rfl | rfl | rfl
  · exact ⟨(by decide), fun id bytes => brief_readable id ⟨.getConfig, ()⟩ bytes⟩
  all_goals trivial

theorem linkAgrees_pair :
    Agrees briefCodec ((machine briefCodec briefServer briefLimits).final (Link.new briefLimits)
        (sends .getConfig none ++ sends .getConfig (some (.ok ()))))
      ∧ ((machine briefCodec briefServer briefLimits).final (Link.new briefLimits)
          (sends .getConfig none ++ sends .getConfig (some (.ok ())))).server.polled = [2, 3] := by
  refine ⟨linkAgrees briefCodec briefServer briefLimits brief_agreeing ⟨rfl, rfl⟩ _ ?_ (by decide),
    rfl⟩
  intro op hmem
  rcases List.mem_append.mp hmem with hfirst | hsecond
  · exact sends_meets _ op hfirst
  · exact sends_meets _ op hsecond

/-- The client sends an image request of a camera group, and the server, which has a request in
hand, ends the connection. -/
theorem group_image_ends : Agreeing briefCodec briefServer
      ∧ (∀ (id : Nat) (command : Command Unit) (bytes : List UInt8), id < 2 ^ 64 →
          briefCodec.serialize id command = some bytes →
          briefServer.parse bytes = some ⟨version, id, command⟩)
      ∧ ((machine briefCodec briefServer briefLimits).final (Link.new briefLimits)
          (sends .getConfig none ++ sends .cameraGroupImage none)).client.calls.length = 2
      ∧ ((machine briefCodec briefServer briefLimits).final (Link.new briefLimits)
          (sends .getConfig none ++ sends .cameraGroupImage none)).server.stage
            = .ended (.error .requestOrder) :=
  ⟨brief_agreeing, brief_readable, rfl, rfl⟩

end Link

end Ipc

end Regain.Hub
