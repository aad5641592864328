/-
This file defines the exchange: the reply channels of all requests, the state of the application
and the record of everything that happened, with one operation for each thing that can be done to
a request.  The service does not run alone: other threads hold copies of requests and act on them
between any two of its steps.
-/

import RpcDispatch.Exchange.Channel
import RpcDispatch.Log.Notice

namespace RpcDispatch

/-- Channels are known by the order in which their requests came. -/
abbrev Key := Nat

/-- Reports come from the thread that runs the service or from the worker of a job. -/
inductive Thread where
  | service
  | worker
  deriving DecidableEq

/-- The names of the threads in the log. -/
def Thread.name : Thread → String
  | .service => "main"
  | .worker => "brayns-network-task"

/-- The hooks of an entrypoint.  A hook that is called for a task names its request. -/
inductive Hook where
  | request (key : Key)
  | cancel (key : Key)
  | disconnect (key : Key)
  | update
  deriving DecidableEq

/-- What a text is sent for: the answer to a request, its progress, or no request at all. -/
inductive Cause where
  | answer (key : Key)
  | progress (key : Key)
  | direct
  deriving DecidableEq

inductive Event where
  /-- A text was given to the sender of a client. -/
  | sent {cause : Cause} (client : ClientId) (text : String) (fault : Option SendFault)
  | called (method : String) (hook : Hook)
  | chunk (client : ClientId) (bytes : Bytes)
  /-- An application may leave notes of its own. -/
  | note (value : Json.Value)
  | logged (thread : Thread) (notice : Log.Notice)

/-- What can be done to requests and to the state of the application. -/
inductive Act (σ : Type) where
  | reply (key : Key) (result : Except String Json.Value)
  | error (key : Key) (error : Rpc.Error)
  | progress (key : Key) (operation : String) (amount : Float)
  | close (key : Key)
  | write (state : σ)
  | note (value : Json.Value)
  | log (notice : Log.Notice)
  | switch (thread : Thread)

structure Exchange (σ : Type) where
  state : σ
  channels : List Channel
  /-- What becomes of the text with the given number among all texts for a client. -/
  senders : ClientId → Nat → Option SendFault
  attempts : Nat
  thread : Thread
  /-- What the other threads do, in one entry for each of their turns. -/
  others : List (List (Act σ))
  trace : List Event

namespace Exchange

variable {σ : Type}

/-- An exchange before any request. -/
def start (state : σ) (senders : ClientId → Nat → Option SendFault) : Exchange σ :=
  { state, channels := [], senders, attempts := 0, thread := .service, others := [], trace := [] }

def channel? (exchange : Exchange σ) (key : Key) : Option Channel :=
  exchange.channels[key]?

def record (exchange : Exchange σ) (event : Event) : Exchange σ :=
  { exchange with trace := exchange.trace ++ [event] }

def log (exchange : Exchange σ) (notice : Log.Notice) : Exchange σ :=
  exchange.record (.logged exchange.thread notice)

/-- A new channel and its key. -/
def enroll (exchange : Exchange σ) (request : Request) : Key × Exchange σ :=
  (exchange.channels.length,
    { exchange with channels := exchange.channels ++ [Channel.open request] })

def update (exchange : Exchange σ) (key : Key) (change : Channel → Channel) : Exchange σ :=
  { exchange with channels := exchange.channels.modify key change }

/-! ### Sending -/

/-- Gives a text to the sender of a client. -/
def attempt (exchange : Exchange σ) (client : ClientId) (text : String)
    (cause : Cause := .direct) : Option SendFault × Exchange σ :=
  let fault := exchange.senders client exchange.attempts
  (fault,
    { exchange.record (@Event.sent cause client text fault) with
      attempts := exchange.attempts + 1 })

/-- Sends a text for a request.  A failure is reported and otherwise ignored. -/
def send (exchange : Exchange σ) (cause : Cause) (request : Request) (text : String) :
    Exchange σ :=
  let reported := exchange.log (.sending request.client request.id text.utf8ByteSize)
  match reported.attempt request.client text cause with
  | (none, sent) => sent
  | (some fault, sent) => sent.log (.undelivered request.client fault)

/-- Sends the one answer that a request may have. -/
def answer (exchange : Exchange σ) (key : Key) (encode : Rpc.Id → String) : Exchange σ :=
  match exchange.channel? key with
  | none => exchange
  | some channel =>
    let request := channel.request
    if request.isNotification then exchange
    else if channel.closed then exchange.log (.answerDropped request.client request.id)
    else if channel.answered then
      exchange.log (.extraAnswer request.client request.id request.method)
    else
      (exchange.update key fun channel => { channel with answered := true }).send (.answer key)
        request (encode request.id)

def error (exchange : Exchange σ) (key : Key) (error : Rpc.Error) : Exchange σ :=
  exchange.answer key fun id => Rpc.errorText id error

/-- A result that has no JSON form is answered as an internal error. -/
def reply (exchange : Exchange σ) (key : Key) (result : Except String Json.Value) : Exchange σ :=
  match result with
  | .ok value => exchange.answer key fun id => Rpc.replyText id value
  | .error fault => exchange.error key (.internal ("Failed to serialize result: " ++ fault))

/-- Progress is sent until the request has its answer. -/
def progress (exchange : Exchange σ) (key : Key) (operation : String) (amount : Float) :
    Exchange σ :=
  match exchange.channel? key with
  | none => exchange
  | some channel =>
    if channel.request.isNotification || channel.closed || channel.answered then exchange
    else
      exchange.send (.progress key) channel.request
        (Rpc.progressText channel.request.id operation amount)

/-- Nothing is sent for a closed request. -/
def close (exchange : Exchange σ) (key : Key) : Exchange σ :=
  exchange.update key fun channel => { channel with closed := true }

/-! ### Acting -/

/-- The effect of an act. -/
def perform (exchange : Exchange σ) : Act σ → Exchange σ
  | .reply key result => exchange.reply key result
  | .error key error => exchange.error key error
  | .progress key operation amount => exchange.progress key operation amount
  | .close key => exchange.close key
  | .write state => { exchange with state }
  | .note value => exchange.record (.note value)
  | .log notice => exchange.log notice
  | .switch thread => { exchange with thread }

/-- The other threads have their turn between two steps of this one. -/
def pause (exchange : Exchange σ) : Exchange σ :=
  match exchange.others with
  | [] => exchange
  | acts :: others => acts.foldl perform { exchange with others }

end Exchange

end RpcDispatch
