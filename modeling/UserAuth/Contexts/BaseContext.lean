import UserAuth.Engine.EngineReply

namespace UserAuth

structure BaseContext where
  hasStarted : Bool := false
  stopRequested : Bool := false
  startFailDelivered : Bool := false
  latestError : ResultCode := ResultCode.GENERAL_ERROR

namespace BaseContext

-- Start up to the virtual OnStart: whether the body is to run.
def start (c : BaseContext) : BaseContext × Bool :=
  if c.hasStarted then (c,false)
  else if c.stopRequested then ({c with latestError:=setLatestError c.latestError ResultCode.CANCELED},false)
  else ({c with hasStarted:=true},true)

-- The code that goes to the caller, with no attributes.
def onStartFailed (c : BaseContext) (errorCode : ResultCode) : BaseContext × Option ResultCode :=
  if c.startFailDelivered then (c,none) else ({c with startFailDelivered:=true},some errorCode)

inductive Stop where
  | alreadyRequested
  | beforeStart
  | onStop
  deriving DecidableEq,Repr

def stop (c : BaseContext) : BaseContext × Stop :=
  if !c.hasStarted then
    if c.stopRequested then (c,.alreadyRequested) else ({c with stopRequested:=true},.beforeStart)
  else (c,.onStop)

section Calls
variable {c : BaseContext}

-- The flags decide which of their branches Start and Stop take.
theorem start_granted (fresh : c.hasStarted = false) (going : c.stopRequested = false) :
    c.start = ({c with hasStarted:=true},true) := by
  simp [start,fresh,going]

theorem start_refused (begun : c.hasStarted = true ∨ c.stopRequested = true) : c.start.2 = false := by
  unfold start
  split
  · rfl
  · next fresh => rw [if_pos (begun.resolve_left fresh)]

theorem stop_fresh (fresh : c.hasStarted = false) (going : c.stopRequested = false) :
    c.stop = ({c with stopRequested:=true},.beforeStart) := by
  simp [stop,fresh,going]

theorem stop_again (fresh : c.hasStarted = false) (stopped : c.stopRequested = true) :
    c.stop = (c,.alreadyRequested) := by
  simp [stop,fresh,stopped]

theorem stop_begun (begun : c.hasStarted = true) : c.stop = (c,.onStop) := by
  simp [stop,begun]

theorem onStartFailed_first (untold : c.startFailDelivered = false) (errorCode : ResultCode) :
    c.onStartFailed errorCode = ({c with startFailDelivered:=true},some errorCode) := by
  simp [onStartFailed,untold]

-- Neither Start nor Stop tells the caller anything.
@[simp] theorem start_delivered : c.start.1.startFailDelivered = c.startFailDelivered := by
  unfold start
  split
  · rfl
  · split <;> rfl

-- An error once noted stays one.
theorem start_failing (failing : c.latestError ≠ ResultCode.SUCCESS) : c.start.1.latestError ≠ ResultCode.SUCCESS := by
  unfold start
  split
  · exact failing
  · split
    · have kept : setLatestError c.latestError ResultCode.CANCELED ≠ ResultCode.SUCCESS :=
        setLatestError_failure failing
      exact kept
    · exact failing

@[simp] theorem stop_error : c.stop.1.latestError = c.latestError := by
  unfold stop
  split
  · split <;> rfl
  · rfl

@[simp] theorem onStartFailed_error (errorCode : ResultCode) :
    (c.onStartFailed errorCode).1.latestError = c.latestError := by
  unfold onStartFailed
  split <;> rfl

end Calls
end BaseContext
end UserAuth
