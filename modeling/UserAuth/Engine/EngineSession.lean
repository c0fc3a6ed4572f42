import UserAuth.Lib.History

namespace UserAuth

-- The engine keeps a session for an authentication or an identification under
-- its context, and one for an enrollment under its user.
inductive EngineSession where
  | authentication (contextId : UInt64)
  | enrollment (userId : Int32)
  | identification (contextId : UInt64)
  deriving DecidableEq,Repr

-- What an object does with its session: a begin or an update that the engine
-- accepted, a cancel whatever the engine answered, and its own destruction.
inductive SessionCall where
  | begins (ref : Nat) (session : EngineSession)
  | updates (ref : Nat) (session : EngineSession)
  | cancels (ref : Nat) (session : EngineSession)
  | destroyed (ref : Nat)
  deriving DecidableEq,Repr

namespace SessionCall

def leavesOpen (ref : Nat) (opened : Bool) : SessionCall → Bool
  | .begins other _ => opened || other == ref
  | .updates other _ | .cancels other _ => opened && other != ref
  | .destroyed _ => opened

-- Does the object still have to close a session that it opened?
def openBy (ref : Nat) (calls : List SessionCall) : Bool := calls.foldl (leavesOpen ref) false

def leavesHolder (session : EngineSession) (holder : Option Nat) : SessionCall → Option Nat
  | .begins ref begun => if begun = session then some ref else holder
  | .updates _ ended | .cancels _ ended => if ended = session then none else holder
  | .destroyed _ => holder

-- The object whose begin opened the session that the engine holds.
def holder (session : EngineSession) (calls : List SessionCall) : Option Nat := calls.foldl (leavesHolder session) none

def Settled (before : List SessionCall) : SessionCall → Prop
  | .destroyed ref => openBy ref before = false
  | _ => True

def Own (before : List SessionCall) : SessionCall → Prop
  | .cancels ref (.enrollment userId) => ∀ owner ∈ holder (.enrollment userId) before, owner = ref
  | _ => True

def Unleaked (calls : List SessionCall) : Prop := History.Each Settled calls
def Uncrossed (calls : List SessionCall) : Prop := History.Each Own calls

@[simp] theorem openBy_nil (ref : Nat) : openBy ref [] = false := rfl
@[simp] theorem openBy_concat (ref : Nat) (calls : List SessionCall) (call : SessionCall) :
    openBy ref (calls ++ [call]) = leavesOpen ref (openBy ref calls) call := by
  simp [openBy,List.foldl_append]

@[simp] theorem holder_nil (session : EngineSession) : holder session [] = none := rfl
@[simp] theorem holder_concat (session : EngineSession) (calls : List SessionCall) (call : SessionCall) :
    holder session (calls ++ [call]) = leavesHolder session (holder session calls) call := by
  simp [holder,List.foldl_append]

end SessionCall
end UserAuth
