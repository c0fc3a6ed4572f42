import UserAuth.Credential.CredentialUpdated
import UserAuth.Lib.Mealy

namespace UserAuth

def ResultCode.ENGINE_UNAVAILABLE : ResultCode := 1006

-- The parameters that are watched. They say "true", "false" or something else.
inductive WatchedParam where
  | isPinEnrolled | startSa | isCredentialChecked | stopSa
  deriving DecidableEq

-- A manager's timerId_, with its timers that run and the callbacks that the timers'
-- thread has come to but that wait for the manager's lock.
structure OneShotTimer where
  timerId : Option Nat := none
  registered : List Nat := []
  due : List Nat := []
  nextId : Nat := 0

namespace OneShotTimer
variable (t : OneShotTimer)

def register : OneShotTimer := {t with timerId:=some t.nextId,registered:=t.registered ++ [t.nextId],nextId:=t.nextId + 1}

def unregister : OneShotTimer :=
  match t.timerId with
  | none => t
  | some timerId => {t with timerId:=none,registered:=t.registered.erase timerId}

def expire (timerId : Nat) : OneShotTimer :=
  if timerId ∈ t.registered then {t with registered:=t.registered.erase timerId,due:=t.due ++ [timerId]} else t

def Armed : Prop := ∃ timerId ∈ t.registered, t.timerId = some timerId

end OneShotTimer

inductive LoadModeEvent where
  -- STOP_SA is set, with whether a PIN is enrolled and whether a notice of that is
  -- on its way.
  | stopSa (isPinEnrolled noticed : Bool)
  -- OnFwkReady has come to the ServiceUnloadManager, with whether it knows by then that
  -- credentials are checked or has no notice of a PIN on its way.
  | onFwkReady (isStopSa settled : Bool)
  | fwkReady
  | load (loaded : Bool)
  | unload (unloaded : Bool)
  deriving DecidableEq

structure ServiceUnloadManager where
  isPinEnrolled : Bool := false
  startSa : Bool := false
  isCredentialChecked : Bool := false
  timer : OneShotTimer := {}

namespace ServiceUnloadManager
variable (s : ServiceUnloadManager)

def stopTimer : ServiceUnloadManager := {s with timer:=s.timer.unregister}
def restartTimer : ServiceUnloadManager := {s with timer:=s.timer.unregister.register}

def onIsPinEnrolledChange (isPinEnrolled : Bool) : ServiceUnloadManager :=
  if s.isPinEnrolled = isPinEnrolled then s
  else
    let s := {s with isPinEnrolled}
    if isPinEnrolled then s.stopTimer else if s.isCredentialChecked then s.restartTimer else s

def onStartSaChange (startSa : Bool) : ServiceUnloadManager :=
  if s.startSa = startSa then s
  else
    let s := {s with startSa}
    if !startSa then s else s.restartTimer

def onCredentialCheckedChange (isCredentialChecked : Bool) : ServiceUnloadManager := {s with isCredentialChecked}

end ServiceUnloadManager

structure EngineLoadManager where
  isEngineRunning : Bool := false
  isSaStopping : Bool := false
  timer : OneShotTimer := {}

namespace EngineLoadManager
variable (s : EngineLoadManager)

def settleTimer : EngineLoadManager :=
  if s.isEngineRunning = !s.isSaStopping then {s with timer:=s.timer.unregister}
  else if s.timer.timerId.isSome then s
  else {s with timer:=s.timer.register}

-- `answer` is whether the engine does as it is told.
def processServiceStatus (answer : Bool) : EngineLoadManager × List LoadModeEvent :=
  let shouldRunning := !s.isSaStopping
  if s.isEngineRunning = shouldRunning then (s.settleTimer,[])
  else
    let s := if answer then {s with isEngineRunning:=shouldRunning} else s
    (s.settleTimer,[if shouldRunning then .load answer else .unload answer])

def onSaStopping (isStopping answer : Bool) : EngineLoadManager × List LoadModeEvent :=
  {s with isSaStopping:=isStopping}.processServiceStatus answer

def onEngineReady (answer : Bool) : EngineLoadManager × List LoadModeEvent :=
  {s with isEngineRunning:=true}.processServiceStatus answer

def onEngineUnavailable (answer : Bool) : EngineLoadManager × List LoadModeEvent :=
  {s with isEngineRunning:=false}.processServiceStatus answer

def onTimeout (answer : Bool) : EngineLoadManager × List LoadModeEvent :=
  match s.timer.due with
  | [] => (s,[])
  | _ :: due => {s with timer:={s.timer with timerId:=none,due}}.processServiceStatus answer

end EngineLoadManager

-- How far a call of OnFwkReady has come.
inductive ReadyStep where
  | refreshIsPinEnrolled | setCredentialChecked | unloadManager
  deriving DecidableEq

-- Of LoadModeHandlerDynamic and the two managers it starts.
structure LoadMode where
  params : WatchedParam → Option Bool
  notices : List (WatchedParam × Bool) := []
  isSubscribed : Bool := false
  unload : ServiceUnloadManager := {}
  engine : EngineLoadManager := {}
  readyCalls : List ReadyStep := []

-- What each account's query for its PIN is answered with, where there are accounts.
abbrev PinQueries := Option (List (EngineReply (List EngCredentialInfo)))

inductive LoadModeInput where
  | startSubscribe (answer : Bool)
  -- By others.
  | setStartSa (value : Bool)
  | setStopSa (value : Bool)
  -- A watcher hears of the oldest change it has not heard of.
  | onParamChange (answer : Bool)
  | onCredentialUpdated (accounts : PinQueries)
  | onPinAuthServiceStop
  | onFwkReady
  | readyStep (index : Nat) (accounts : PinQueries)
  | expire (timerId : Nat)
  | onTimeout
  | expireRetry (timerId : Nat)
  | onRetry (answer : Bool)
  | onEngineReady (answer : Bool)
  | onEngineUnavailable (answer : Bool)

namespace LoadMode
variable (s : LoadMode)

def getParam (key : WatchedParam) : Bool := s.params key == some true

def setParameter (key : WatchedParam) (value : Bool) : LoadMode :=
  {s with
    params:=Function.update s.params key (some value)
    notices:=if s.isSubscribed then s.notices ++ [(key,value)] else s.notices}

def setParam (key : WatchedParam) (value : Bool) : LoadMode :=
  if s.params key = some value then s else s.setParameter key value

def setParamTwice (key : WatchedParam) (value1 value2 : Bool) :
    LoadMode := (s.setParam key value1).setParameter key value2

def stop : LoadMode × List LoadModeEvent :=
  (s.setParamTwice .stopSa false true,[.stopSa (s.getParam .isPinEnrolled) (s.notices.any (·.1 = .isPinEnrolled))])

-- An account that fails is one without a PIN, unless there is no engine to ask.
def anyUserHasPinCredential : List (EngineReply (List EngCredentialInfo)) → Option Bool
  | [] => some false
  | .refused code _ :: rest => if code = ResultCode.ENGINE_UNAVAILABLE then none else anyUserHasPinCredential rest
  | .answered credInfos :: rest => if credInfos.isEmpty then anyUserHasPinCredential rest else some true

def refreshIsPinEnrolled (accounts : PinQueries) : LoadMode :=
  match accounts.bind anyUserHasPinCredential with
  | none => s
  | some isPinEnrolled => s.setParam .isPinEnrolled isPinEnrolled

-- The watchers come before what they would have missed is read.
def startSubscribe (answer : Bool) : LoadMode × List LoadModeEvent :=
  if s.isSubscribed then (s,[])
  else
    let engine := s.engine.onSaStopping (s.getParam .stopSa) answer
    let unload := ((s.unload.onIsPinEnrolledChange (s.getParam .isPinEnrolled)).onStartSaChange
      (s.getParam .startSa)).onCredentialCheckedChange (s.getParam .isCredentialChecked)
    ({s with isSubscribed:=true,engine:=engine.1,unload},engine.2)

def onParamChange (answer : Bool) : LoadMode × List LoadModeEvent :=
  match s.notices with
  | [] => (s,[])
  | (key,value) :: notices =>
    let s := {s with notices}
    match key with
    | .isPinEnrolled => ({s with unload:=s.unload.onIsPinEnrolledChange value},[])
    | .startSa => ({s with unload:=s.unload.onStartSaChange value},[])
    | .isCredentialChecked => ({s with unload:=s.unload.onCredentialCheckedChange value},[])
    | .stopSa =>
      let engine := s.engine.onSaStopping value answer
      ({s with engine:=engine.1},engine.2)

def onPinAuthServiceStop : LoadMode × List LoadModeEvent :=
  if s.getParam .isPinEnrolled then (s,[]) else if s.getParam .stopSa then (s,[]) else s.stop

-- OnFwkReady of the ServiceUnloadManager.
def decideUnload : LoadMode × List LoadModeEvent :=
  let settled := s.unload.isCredentialChecked || !s.notices.contains (.isPinEnrolled,true)
  let s := {s with unload:={s.unload with isPinEnrolled:=s.getParam .isPinEnrolled}}
  if s.unload.isPinEnrolled || s.unload.timer.timerId.isSome then (s,[.onFwkReady false settled,.fwkReady])
  else Mealy.andThen (s,[.onFwkReady true settled]) stop

-- The calls of OnFwkReady come from the engine and from the token service, and
-- may overlap.
def readyStep (index : Nat) (accounts : PinQueries) : LoadMode × List LoadModeEvent :=
  match s.readyCalls[index]? with
  | none => (s,[])
  | some .refreshIsPinEnrolled =>
    ({s with readyCalls:=s.readyCalls.set index .setCredentialChecked}.refreshIsPinEnrolled accounts,[])
  | some .setCredentialChecked =>
    ({s with readyCalls:=s.readyCalls.set index .unloadManager}.setParam .isCredentialChecked true,[])
  | some .unloadManager => {s with readyCalls:=s.readyCalls.eraseIdx index}.decideUnload

def onTimeout : LoadMode × List LoadModeEvent :=
  match s.unload.timer.due with
  | [] => (s,[])
  | _ :: due =>
    let s := {s with unload:=({s.unload with timer:={s.unload.timer with due}} : ServiceUnloadManager).stopTimer}
    if s.unload.isPinEnrolled then (s,[]) else s.stop

def step (s : LoadMode) : LoadModeInput → LoadMode × List LoadModeEvent
  | .startSubscribe answer => s.startSubscribe answer
  | .setStartSa value => (s.setParameter .startSa value,[])
  | .setStopSa value => (s.setParameter .stopSa value,[])
  | .onParamChange answer => s.onParamChange answer
  | .onCredentialUpdated accounts => (s.refreshIsPinEnrolled accounts,[])
  | .onPinAuthServiceStop => s.onPinAuthServiceStop
  -- ServiceInitManager subscribes before it asks for the engine's state.
  | .onFwkReady => (if s.isSubscribed then {s with readyCalls:=s.readyCalls ++ [.refreshIsPinEnrolled]} else s,[])
  | .readyStep index accounts => s.readyStep index accounts
  | .expire timerId => ({s with unload:={s.unload with timer:=s.unload.timer.expire timerId}},[])
  | .onTimeout => s.onTimeout
  | .expireRetry timerId => ({s with engine:={s.engine with timer:=s.engine.timer.expire timerId}},[])
  | .onRetry answer =>
    let engine := s.engine.onTimeout answer
    ({s with engine:=engine.1},engine.2)
  | .onEngineReady answer =>
    let engine := s.engine.onEngineReady answer
    ({s with engine:=engine.1},engine.2)
  | .onEngineUnavailable answer =>
    let engine := s.engine.onEngineUnavailable answer
    ({s with engine:=engine.1},engine.2)

def machine : Mealy LoadMode LoadModeInput LoadModeEvent := ⟨step⟩

end LoadMode
end UserAuth
