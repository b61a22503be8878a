import AbilityRuntime.Library.KeyedMap
import AbilityRuntime.Library.Runs

set_option autoImplicit false

namespace AbilityRuntime.CliTool

open Library (KeyedMap)

structure SchedulerKey where
  callerPid : Int
  callerUid : Int
deriving DecidableEq, Repr

structure SubscriberKey where
  callerPid : Int
  callerUid : Int
  subscriptionId : String
deriving DecidableEq, Repr

def SubscriberKey.caller (key : SubscriberKey) : SchedulerKey := ⟨key.callerPid, key.callerUid⟩

structure Scheduler where
  proxy : Nat
  asObject : Option Nat
deriving DecidableEq, Repr

-- The handler of the recipient only knows the caller.
structure DeathRecipient where
  id : Nat
  caller : SchedulerKey
deriving DecidableEq, Repr

structure SchedulerState where
  scheduler : Scheduler
  remote : Nat
  deathRecipient : DeathRecipient
deriving DecidableEq, Repr

structure SubscriberState where
  key : SubscriberKey
  scheduler : Scheduler

abbrev Subscribers := KeyedMap SubscriberKey SubscriberState

inductive Task where
  | addDeathRecipient (caller : SchedulerKey) (scheduler : Scheduler) (remote : Nat)
      (deathRecipient : DeathRecipient)
  | saveScheduler (caller : SchedulerKey) (scheduler : Scheduler) (remote : Nat)
      (deathRecipient : DeathRecipient)
  | removeDeathRecipients (cleanupList : List (Nat × DeathRecipient))
  | sendEvents (sessionId : String) (subscribers failedSubscribers : List SubscriberState)
  | onRemoteDied (remote : Nat) (deathRecipient : DeathRecipient)

/-- The dispatcher with its calls under way; saved holds the remotes whose scheduler was ever stored
for a caller. -/
structure EventDispatcher where
  schedulers : KeyedMap SchedulerKey SchedulerState := ∅
  sessionSubscribers : String -> Option Subscribers := fun _ => none
  deathRecipients : List (Nat × DeathRecipient) := []
  tasks : List Task := []
  recipientCount : Nat := 0
  saved : List (SchedulerKey × Nat) := []

inductive Action where
  | setScheduler (callerPid callerUid : Int) (scheduler : Option Scheduler) (allocated : Bool)
  | registerSubscriber (sessionId subscriptionId : String) (callerPid callerUid : Int)
  | unregisterSubscriber (sessionId subscriptionId : String) (callerPid callerUid : Int)
  | dispatchEvent (sessionId : String)
  | clearSessionSubscribers (sessionId : String)
  | clearAll
  | remoteDies (remote : Nat)
  | advance (task : Nat) (answer : Bool)

namespace EventDispatcher

variable (dispatcher : EventDispatcher)

def push (task : Task) : EventDispatcher := { dispatcher with tasks := dispatcher.tasks ++ [task] }

def putSubscribers (sessionId : String) (subscribers : Subscribers) : EventDispatcher :=
  { dispatcher with
    sessionSubscribers := Function.update dispatcher.sessionSubscribers sessionId
      (KeyedMap.unlessEmpty subscribers) }

def removeSubscribersForCallerLocked (caller : SchedulerKey) : EventDispatcher :=
  { dispatcher with
    sessionSubscribers := fun sessionId =>
      (dispatcher.sessionSubscribers sessionId).bind fun subscribers =>
        KeyedMap.unlessEmpty (KeyedMap.eraseAll subscribers
          (subscribers.keys.filter fun key => key.caller == caller)) }

def hasSameScheduler (caller : SchedulerKey) (remote : Nat) : Bool :=
  (dispatcher.schedulers.lookup caller).any fun state => state.remote == remote

-- SetScheduler up to the end of HasSameScheduler. The allocation of the recipient may fail.
def setScheduler (callerPid callerUid : Int) (scheduler : Option Scheduler) (allocated : Bool) :
    EventDispatcher × Option Bool :=
  match scheduler with
  | none => (dispatcher, some false)
  | some scheduler =>
    match scheduler.asObject with
    | none => (dispatcher, some false)
    | some remote =>
      let caller : SchedulerKey := ⟨callerPid, callerUid⟩
      if callerPid ≤ 0 ∨ callerUid < 0 then (dispatcher, some false)
      else if dispatcher.hasSameScheduler caller remote then (dispatcher, some true)
      else if !allocated then (dispatcher, some false)
      else
        ({ dispatcher with recipientCount := dispatcher.recipientCount + 1 }.push
          (.addDeathRecipient caller scheduler remote ⟨dispatcher.recipientCount, caller⟩), none)

-- SaveScheduler and the removal of the recipient that is of no use after it.
def saveScheduler (caller : SchedulerKey) (scheduler : Scheduler) (remote : Nat)
    (deathRecipient : DeathRecipient) : EventDispatcher :=
  if dispatcher.hasSameScheduler caller remote then
    dispatcher.push (.removeDeathRecipients [(remote, deathRecipient)])
  else
    let stored (dispatcher : EventDispatcher) : EventDispatcher :=
      { dispatcher with
        schedulers := dispatcher.schedulers.insert caller ⟨scheduler, remote, deathRecipient⟩
        saved := (caller, remote) :: dispatcher.saved }
    match dispatcher.schedulers.lookup caller with
    | none => stored dispatcher
    | some old =>
      (stored (dispatcher.removeSubscribersForCallerLocked caller)).push
        (.removeDeathRecipients [(old.remote, old.deathRecipient)])

def clearScheduler (caller : SchedulerKey) : EventDispatcher :=
  match dispatcher.schedulers.lookup caller with
  | none => dispatcher.removeSubscribersForCallerLocked caller
  | some state =>
    ({ dispatcher with schedulers := dispatcher.schedulers.erase caller
      }.removeSubscribersForCallerLocked caller).push
        (.removeDeathRecipients [(state.remote, state.deathRecipient)])

def registerSubscriber (sessionId subscriptionId : String) (callerPid callerUid : Int) :
    EventDispatcher × Bool :=
  if sessionId.isEmpty ∨ subscriptionId.isEmpty ∨ callerPid ≤ 0 ∨ callerUid < 0 then
    (dispatcher, false)
  else
    match dispatcher.schedulers.lookup ⟨callerPid, callerUid⟩ with
    | none => (dispatcher, false)
    | some state =>
      let subscribers := (dispatcher.sessionSubscribers sessionId).getD ∅
      let key : SubscriberKey := ⟨callerPid, callerUid, subscriptionId⟩
      ({ dispatcher with
          sessionSubscribers := Function.update dispatcher.sessionSubscribers sessionId
            (some (subscribers.insert key ⟨key, state.scheduler⟩)) },
        true)

def unregisterSubscriber (sessionId subscriptionId : String) (callerPid callerUid : Int) :
    EventDispatcher × Bool :=
  if sessionId.isEmpty ∨ subscriptionId.isEmpty ∨ callerPid ≤ 0 ∨ callerUid < 0 then
    (dispatcher, false)
  else
    match dispatcher.sessionSubscribers sessionId with
    | none => (dispatcher, true)
    | some subscribers =>
      (dispatcher.putSubscribers sessionId
        (subscribers.erase ⟨callerPid, callerUid, subscriptionId⟩), true)

def dispatchEvent (sessionId : String) : EventDispatcher :=
  match dispatcher.sessionSubscribers sessionId with
  | none => dispatcher
  | some subscribers => dispatcher.push (.sendEvents sessionId (KeyedMap.values subscribers) [])

def removeFailedSubscribers (sessionId : String) (failedSubscribers : List SubscriberState) :
    EventDispatcher :=
  if failedSubscribers.isEmpty then dispatcher
  else
    match dispatcher.sessionSubscribers sessionId with
    | none => dispatcher
    | some subscribers =>
      dispatcher.putSubscribers sessionId
        (KeyedMap.eraseAll subscribers (failedSubscribers.map SubscriberState.key))

def clearSessionSubscribers (sessionId : String) : EventDispatcher :=
  { dispatcher with
    sessionSubscribers := Function.update dispatcher.sessionSubscribers sessionId none }

def clearAll : EventDispatcher :=
  { dispatcher with schedulers := ∅, sessionSubscribers := fun _ => none }.push
    (.removeDeathRecipients ((KeyedMap.values dispatcher.schedulers).map fun (state : SchedulerState) =>
      (state.remote, state.deathRecipient)))

-- The recipients of a remote that died are told, each on a thread of its own.
def remoteDies (remote : Nat) : EventDispatcher :=
  { dispatcher with
    deathRecipients := dispatcher.deathRecipients.filter fun held => held.1 != remote
    tasks := dispatcher.tasks ++
      (dispatcher.deathRecipients.filter fun held => held.1 == remote).map fun held =>
        .onRemoteDied held.1 held.2 }

def perform (answer : Bool) : Task -> EventDispatcher
  | .addDeathRecipient caller scheduler remote deathRecipient =>
    { dispatcher with
      deathRecipients := if answer then dispatcher.deathRecipients ++ [(remote, deathRecipient)]
        else dispatcher.deathRecipients }.push
      (.saveScheduler caller scheduler remote deathRecipient)
  | .saveScheduler caller scheduler remote deathRecipient =>
    dispatcher.saveScheduler caller scheduler remote deathRecipient
  | .removeDeathRecipients [] => dispatcher
  | .removeDeathRecipients (held :: rest) =>
    { dispatcher with deathRecipients := dispatcher.deathRecipients.erase held }.push
      (.removeDeathRecipients rest)
  | .sendEvents sessionId [] failedSubscribers =>
    dispatcher.removeFailedSubscribers sessionId failedSubscribers
  | .sendEvents sessionId (subscriber :: rest) failedSubscribers =>
    dispatcher.push (.sendEvents sessionId rest
      (if answer then failedSubscribers else failedSubscribers ++ [subscriber]))
  | .onRemoteDied _ deathRecipient => dispatcher.clearScheduler deathRecipient.caller

def advance (index : Nat) (answer : Bool) : EventDispatcher :=
  match dispatcher.tasks[index]? with
  | none => dispatcher
  | some task => { dispatcher with tasks := dispatcher.tasks.eraseIdx index }.perform answer task

def step : Action -> EventDispatcher
  | .setScheduler callerPid callerUid scheduler allocated =>
    (dispatcher.setScheduler callerPid callerUid scheduler allocated).1
  | .registerSubscriber sessionId subscriptionId callerPid callerUid =>
    (dispatcher.registerSubscriber sessionId subscriptionId callerPid callerUid).1
  | .unregisterSubscriber sessionId subscriptionId callerPid callerUid =>
    (dispatcher.unregisterSubscriber sessionId subscriptionId callerPid callerUid).1
  | .dispatchEvent sessionId => dispatcher.dispatchEvent sessionId
  | .clearSessionSubscribers sessionId => dispatcher.clearSessionSubscribers sessionId
  | .clearAll => dispatcher.clearAll
  | .remoteDies remote => dispatcher.remoteDies remote
  | .advance task answer => dispatcher.advance task answer

def machine : Library.Machine EventDispatcher Action := ⟨{ }, step⟩

end EventDispatcher

end AbilityRuntime.CliTool
