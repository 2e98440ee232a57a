import Regain.Lib.Machine

/-!
# Sessions that exchange commands and replies

A session is sequential code over a state that sends commands and waits for their replies. It ends
with a value or an error; state changes made before an error stay. Replies are up to the device:
`Meets` is a postcondition of every conversation.
-/

namespace Regain.Lib

/-- A conversation: commands, each with what follows on every reply, up to an end. -/
inductive Conversation (Command Reply α : Type) : Type where
  | done (value : α)
  | ask (command : Command) (next : Reply → Conversation Command Reply α)

namespace Conversation

variable {Command Reply α β : Type}

def andThen : Conversation Command Reply α → (α → Conversation Command Reply β) →
    Conversation Command Reply β
  | done value, next => next value
  | ask command rest, next => ask command fun reply => (rest reply).andThen next

/-- A property of every ending, with the commands and replies on the way. -/
def Every : Conversation Command Reply α → (List (Command × Reply) → α → Prop) → Prop
  | done value, post => post [] value
  | ask command next, post =>
    ∀ reply, (next reply).Every fun log value => post ((command, reply) :: log) value

theorem every_andThen {conversation : Conversation Command Reply α}
    {next : α → Conversation Command Reply β} {post : List (Command × Reply) → β → Prop} :
    (conversation.andThen next).Every post
      ↔ conversation.Every fun log value => (next value).Every fun rest => post (log ++ rest) := by
  induction conversation generalizing post with
  | done value => rfl
  | ask command rest ih => exact forall_congr' fun reply => ih reply

theorem Every.mono {conversation : Conversation Command Reply α}
    {post post' : List (Command × Reply) → α → Prop} (h : conversation.Every post)
    (himp : ∀ log value, post log value → post' log value) : conversation.Every post' := by
  induction conversation generalizing post post' with
  | done value => exact himp _ _ h
  | ask command rest ih => exact fun reply => ih reply (h reply) fun log value => himp _ _

/-- The conversation with the replies of a sequence. -/
def answer (replies : Nat → Reply) : Conversation Command Reply α → List (Command × Reply) × α
  | done value => ([], value)
  | ask command next =>
    let (log, value) := answer (fun index => replies (index + 1)) (next (replies 0))
    ((command, replies 0) :: log, value)

theorem Every.answer {conversation : Conversation Command Reply α}
    {post : List (Command × Reply) → α → Prop} (h : conversation.Every post)
    (replies : Nat → Reply) :
    post (conversation.answer replies).1 (conversation.answer replies).2 := by
  induction conversation generalizing post replies with
  | done value => exact h
  | ask command rest ih => exact ih (replies 0) (h (replies 0)) fun index => replies (index + 1)

/-- Every reply of a conversation is one of the sequence. -/
theorem mem_answer {conversation : Conversation Command Reply α} {replies : Nat → Reply}
    {entry : Command × Reply} (h : entry ∈ (conversation.answer replies).1) :
    ∃ index, entry.2 = replies index := by
  induction conversation generalizing replies with
  | done value => cases h
  | ask command next ih =>
    rcases List.mem_cons.mp h with hfirst | hrest
    · rw [hfirst]
      exact ⟨0, rfl⟩
    · obtain ⟨index, hindex⟩ := ih (replies 0) hrest
      exact ⟨index + 1, hindex⟩

/-- The first command of a conversation gets the first reply. -/
theorem answer_cons {conversation : Conversation Command Reply α} {replies : Nat → Reply}
    {entry : Command × Reply} {rest : List (Command × Reply)}
    (h : (conversation.answer replies).1 = entry :: rest) : entry.2 = replies 0 := by
  cases conversation with
  | done value => cases h
  | ask command next =>
    injection h with hentry hrest
    rw [← hentry]

end Conversation

/-- Code over a state that exchanges commands and replies. -/
def Exchange (State Command Reply ε α : Type) : Type :=
  State → Conversation Command Reply (Except ε α × State)

namespace Exchange

variable {State Command Reply ε α β : Type}

def ret (value : α) : Exchange State Command Reply ε α :=
  fun state => .done (.ok value, state)

def fail (error : ε) : Exchange State Command Reply ε α :=
  fun state => .done (.error error, state)

/-- What follows the end of a first part. -/
def follow (next : α → Exchange State Command Reply ε β) :
    Except ε α × State → Conversation Command Reply (Except ε β × State)
  | (.ok value, state) => next value state
  | (.error error, state) => .done (.error error, state)

def andThen (first : Exchange State Command Reply ε α)
    (next : α → Exchange State Command Reply ε β) : Exchange State Command Reply ε β :=
  fun state => (first state).andThen (follow next)

instance : Monad (Exchange State Command Reply ε) where
  pure := ret
  bind := andThen

def get : Exchange State Command Reply ε State :=
  fun state => .done (.ok state, state)

def modify (f : State → State) : Exchange State Command Reply ε Unit :=
  fun state => .done (.ok (), f state)

/-- Send a command and wait for its reply. -/
def send (command : Command) : Exchange State Command Reply ε Reply :=
  fun state => .ask command fun reply => .done (.ok reply, state)

/-- Go on only if a condition holds. -/
def ensure (condition : Bool) (error : ε) : Exchange State Command Reply ε Unit :=
  if condition then ret () else fail error

/-- Run a block whose error is a value for the code after it. -/
def attempt (block : Exchange State Command Reply ε α) :
    Exchange State Command Reply ε (Except ε α) :=
  fun state => (block state).andThen fun ending => .done (.ok ending.1, ending.2)

/-- A property of every conversation from one state. -/
def Meets (code : Exchange State Command Reply ε α) (state : State)
    (post : List (Command × Reply) → Except ε α → State → Prop) : Prop :=
  (code state).Every fun log ending => post log ending.1 ending.2

/-- What the rest of the code makes of the end of a first part. -/
def Continues (next : α → Exchange State Command Reply ε β)
    (post : List (Command × Reply) → Except ε β → State → Prop) (log : List (Command × Reply)) :
    Except ε α → State → Prop
  | .ok value, state => (next value).Meets state fun rest => post (log ++ rest)
  | .error error, state => post log (.error error) state

section

variable {state : State} {post : List (Command × Reply) → Except ε α → State → Prop}

@[simp] theorem continues_ok {next : α → Exchange State Command Reply ε β}
    {post : List (Command × Reply) → Except ε β → State → Prop} {log : List (Command × Reply)}
    {value : α} : Continues next post log (.ok value) state
      ↔ (next value).Meets state fun rest => post (log ++ rest) :=
  Iff.rfl

@[simp] theorem continues_error {next : α → Exchange State Command Reply ε β}
    {post : List (Command × Reply) → Except ε β → State → Prop} {log : List (Command × Reply)}
    {error : ε} : Continues next post log (.error error) state ↔ post log (.error error) state :=
  Iff.rfl

@[simp] theorem meets_pure {value : α} :
    (pure value : Exchange State Command Reply ε α).Meets state post ↔ post [] (.ok value) state :=
  Iff.rfl

@[simp] theorem meets_ret {value : α} :
    (ret value : Exchange State Command Reply ε α).Meets state post ↔ post [] (.ok value) state :=
  Iff.rfl

@[simp] theorem meets_fail {error : ε} :
    (fail error : Exchange State Command Reply ε α).Meets state post
      ↔ post [] (.error error) state :=
  Iff.rfl

@[simp] theorem meets_get {post : List (Command × Reply) → Except ε State → State → Prop} :
    (get : Exchange State Command Reply ε State).Meets state post ↔ post [] (.ok state) state :=
  Iff.rfl

@[simp] theorem meets_modify {f : State → State}
    {post : List (Command × Reply) → Except ε Unit → State → Prop} :
    (modify f : Exchange State Command Reply ε Unit).Meets state post ↔ post [] (.ok ()) (f state) :=
  Iff.rfl

@[simp] theorem meets_send {command : Command}
    {post : List (Command × Reply) → Except ε Reply → State → Prop} :
    (send command : Exchange State Command Reply ε Reply).Meets state post
      ↔ ∀ reply, post [(command, reply)] (.ok reply) state :=
  Iff.rfl

@[simp] theorem meets_ensure {condition : Bool} {error : ε}
    {post : List (Command × Reply) → Except ε Unit → State → Prop} :
    (ensure condition error : Exchange State Command Reply ε Unit).Meets state post
      ↔ if condition = true then post [] (.ok ()) state else post [] (.error error) state := by
  cases condition <;> exact Iff.rfl

@[simp] theorem meets_bind {first : Exchange State Command Reply ε α}
    {next : α → Exchange State Command Reply ε β}
    {post : List (Command × Reply) → Except ε β → State → Prop} :
    (first >>= next).Meets state post ↔ first.Meets state (Continues next post) := by
  unfold Meets
  simp only [bind, andThen, Conversation.every_andThen]
  have hsame : ∀ (log : List (Command × Reply)) (ending : Except ε α × State),
      (follow next ending).Every (fun rest ending => post (log ++ rest) ending.1 ending.2)
        ↔ Continues next post log ending.1 ending.2 := by
    rintro log ⟨error | value, state'⟩
    · simp only [follow, Conversation.Every, List.append_nil, continues_error]
    · exact Iff.rfl
  exact ⟨fun h => h.mono fun log ending => (hsame log ending).mp,
    fun h => h.mono fun log ending => (hsame log ending).mpr⟩

@[simp] theorem meets_attempt {block : Exchange State Command Reply ε α}
    {post : List (Command × Reply) → Except ε (Except ε α) → State → Prop} :
    block.attempt.Meets state post ↔ block.Meets state fun log ending => post log (.ok ending) := by
  unfold Meets attempt
  rw [Conversation.every_andThen]
  simp only [Conversation.Every, List.append_nil]

theorem Meets.mono {code : Exchange State Command Reply ε α}
    {post' : List (Command × Reply) → Except ε α → State → Prop} (h : code.Meets state post)
    (himp : ∀ log ending state', post log ending state' → post' log ending state') :
    code.Meets state post' :=
  Conversation.Every.mono h fun log ending => himp log ending.1 ending.2

/-- What the first part establishes is what the rest starts from. -/
theorem Meets.bind {first : Exchange State Command Reply ε α}
    {next : α → Exchange State Command Reply ε β}
    {post' : List (Command × Reply) → Except ε β → State → Prop} (h : first.Meets state post)
    (hnext : ∀ log ending state', post log ending state' → Continues next post' log ending state') :
    (first >>= next).Meets state post' :=
  meets_bind.mpr (h.mono hnext)

end

/-- What a request of a run has come to. -/
structure Answered (Command Reply ε α : Type) where
  log : List (Command × Reply)
  ending : Except ε α

/-- The machine whose requests are served by a session, each with the replies to its commands. -/
def machine {Request : Type} (serve : Request → Exchange State Command Reply ε α) :
    Machine State (Request × (Nat → Reply)) (Answered Command Reply ε α) where
  step state request :=
    let (log, ending, state') := (serve request.1 state).answer request.2
    (⟨log, ending⟩, state')

theorem Meets.perform {Request : Type} {serve : Request → Exchange State Command Reply ε α}
    {request : Request} {state : State} {post : List (Command × Reply) → Except ε α → State → Prop}
    (h : (serve request).Meets state post) (replies : Nat → Reply) :
    post ((machine serve).perform state (request, replies)).result.log
      ((machine serve).perform state (request, replies)).result.ending
      ((machine serve).perform state (request, replies)).after :=
  Conversation.Every.answer h replies

theorem mem_perform {Request : Type} {serve : Request → Exchange State Command Reply ε α}
    {request : Request} {state : State} {replies : Nat → Reply} {entry : Command × Reply}
    (h : entry ∈ ((machine serve).perform state (request, replies)).result.log) :
    ∃ index, entry.2 = replies index :=
  Conversation.mem_answer h

theorem perform_cons {Request : Type} {serve : Request → Exchange State Command Reply ε α}
    {request : Request} {state : State} {replies : Nat → Reply} {entry : Command × Reply}
    {rest : List (Command × Reply)}
    (h : ((machine serve).perform state (request, replies)).result.log = entry :: rest) :
    entry.2 = replies 0 :=
  Conversation.answer_cons h

end Exchange

end Regain.Lib
