/-
This file defines the service.  Each iteration takes what the inbox holds, dispatches it, runs the
queued tasks and gives every entrypoint its update.
-/

import RpcDispatch.Dispatch

namespace RpcDispatch

structure Service (σ : Type) where
  inbox : Inbox
  dispatcher : Dispatcher σ
  manager : TaskManager σ
  exchange : Exchange σ

namespace Service

variable {σ : Type}

/-- A service before its first event. -/
def create (dispatcher : Dispatcher σ) (exchange : Exchange σ) : Service σ :=
  ⟨.empty, dispatcher, .empty, exchange⟩

/-- A connection reports an event. -/
def notify (service : Service σ) (arrival : Arrival) : Service σ :=
  { service with
    inbox := service.inbox.push arrival
    exchange := service.exchange.log arrival.notice }

/-- One iteration over the given events. -/
def process (service : Service σ) (taken : Inbox) : Service σ :=
  let (manager, exchange) :=
    if taken.isEmpty then (service.manager, service.exchange)
    else
      service.dispatcher.dispatch taken service.manager
        (service.exchange.log
          (.processing taken.connected.length taken.disconnected.length taken.requests.length))
  let (manager, exchange) := manager.runAll exchange
  { service with manager, exchange := service.dispatcher.registry.update exchange }

def poll (service : Service σ) : Service σ :=
  let (taken, inbox) := service.inbox.poll
  { service with inbox }.process taken

/-- Runs an iteration when something has arrived. -/
def wait? (service : Service σ) : Option (Service σ) :=
  service.inbox.wait?.map fun (taken, inbox) => { service with inbox }.process taken

/-- Runs an iteration in any case, if need be without events. -/
def waitTimeout (service : Service σ) : Service σ :=
  let (taken, inbox) := service.inbox.waitTimeout
  { service with inbox }.process taken

def hasPendingWork (service : Service σ) : Bool :=
  !service.manager.isEmpty || service.manager.hasPending service.exchange

/-- Discards the events and all tasks. -/
def shutdown (service : Service σ) : Service σ :=
  { service with
    inbox := service.inbox.clear
    manager := .empty
    exchange := service.exchange.log (.shuttingDown service.manager.size) }

end Service

end RpcDispatch
