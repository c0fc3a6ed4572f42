import UserAuth.Common.Defines

namespace UserAuth

inductive ContextType where
  | simpleAuth | enroll | identify | widgetAuth | remoteAuth | remoteAuthInvoker
  | scheduleHolder | deletion | localRemoteAuth | sudoAuth
  deriving DecidableEq,Repr

inductive PreemptDecision where
  | keepRunning | stopNow
  deriving DecidableEq,Repr

-- What the pool reads of a context. `ref` is the object's identity: ids are
-- drawn at random and may come back once their first owner has left the pool.
structure Context where
  ref : Nat
  contextId : UInt64
  createTime : Nat
  contextType : ContextType
  userId : Int32
  authType : AuthType
  authTypeList : List AuthType
  authIntent : AuthIntent
  callerName : String
  isPrimaryContext : Bool
  deriving DecidableEq,Repr

def isAuthContext : ContextType → Bool
  | .simpleAuth | .widgetAuth | .sudoAuth | .remoteAuth | .localRemoteAuth => true
  | _ => false

def bearsPin (ctx : Context) : Bool := ctx.authTypeList.any (· == AuthType.PIN)

def blockedBySudoPinContention (self predecessor : Context) : Bool :=
  if self.userId == INVALID_USER_ID || self.userId != predecessor.userId then false
  else if !bearsPin self || !bearsPin predecessor then false
  else self.authIntent == .SUDO_PIN_AUTH || predecessor.authIntent == .SUDO_PIN_AUTH

namespace ContextAdmissionPolicy

def canStart (self : Context) (predecessors : List Context) : Bool :=
  if !self.isPrimaryContext || !isAuthContext self.contextType then true
  else predecessors.all fun predecessor =>
    !predecessor.isPrimaryContext || !isAuthContext predecessor.contextType ||
      !blockedBySudoPinContention self predecessor

end ContextAdmissionPolicy

-- The five auth contexts defer to the policy, the others keep the base answer.
def Context.canStart (self : Context) (predecessors : List Context) : Bool :=
  match self.contextType with
  | .simpleAuth | .widgetAuth | .sudoAuth | .remoteAuth | .localRemoteAuth =>
    ContextAdmissionPolicy.canStart self predecessors
  | _ => true

def isSameCallerDuplicate (incoming existing : Context) : Bool :=
  !(!incoming.isPrimaryContext || !existing.isPrimaryContext || incoming.callerName != existing.callerName ||
    incoming.contextType != existing.contextType || incoming.authType != existing.authType ||
    incoming.userId != existing.userId)

namespace WidgetContext

def getPreemptDecision (newRequest : Context) : PreemptDecision :=
  if newRequest.contextType != .widgetAuth then .keepRunning else .stopNow

end WidgetContext

namespace SudoAuthContext

def getPreemptDecision (dialogActive : Bool) (self newRequest : Context) : PreemptDecision :=
  if !dialogActive || !newRequest.isPrimaryContext then .keepRunning
  else
    let newcomerTakesOverWindow := newRequest.contextType == .sudoAuth || newRequest.contextType == .widgetAuth
    let newcomerConflictsPinSlot := newRequest.userId != INVALID_USER_ID && newRequest.userId == self.userId &&
      isAuthContext newRequest.contextType && bearsPin newRequest
    if newcomerTakesOverWindow || newcomerConflictsPinSlot then .stopNow else .keepRunning

end SudoAuthContext

-- Virtual dispatch. `dialogs` gives each sudo object's dialog flag, the one
-- part of an answer that changes while the context is pooled.
def Context.getPreemptDecision (dialogs : Nat → Bool) (self newRequest : Context) : PreemptDecision :=
  match self.contextType with
  | .widgetAuth => WidgetContext.getPreemptDecision newRequest
  | .sudoAuth => SudoAuthContext.getPreemptDecision (dialogs self.ref) self newRequest
  | _ => .keepRunning

-- Two contexts that the arbitration policy never lets hold the PIN slot together.
def Contend (a b : Context) : Prop :=
  a.isPrimaryContext ∧ b.isPrimaryContext ∧ isAuthContext a.contextType ∧ isAuthContext b.contextType ∧
    a.userId = b.userId ∧ a.userId ≠ INVALID_USER_ID ∧ bearsPin a ∧ bearsPin b ∧
    (a.authIntent = .SUDO_PIN_AUTH ∨ b.authIntent = .SUDO_PIN_AUTH)

instance (a b : Context) : Decidable (Contend a b) := by unfold Contend; infer_instance

theorem Contend.symm (contend : Contend a b) : Contend b a := by
  obtain ⟨pa,pb,ta,tb,user,valid,pinA,pinB,intent⟩ := contend
  exact ⟨pb,pa,tb,ta,user.symm,user ▸ valid,pinB,pinA,intent.symm⟩

theorem Contend.blocked (contend : Contend a b) : blockedBySudoPinContention a b = true := by
  obtain ⟨_,_,_,_,user,valid,pinA,pinB,intent⟩ := contend
  simp [blockedBySudoPinContention,user,pinA,pinB,user ▸ valid,intent]

theorem canStart_policy (auth : isAuthContext ctx.contextType = true) :
    ctx.canStart predecessors = ContextAdmissionPolicy.canStart ctx predecessors := by
  unfold Context.canStart
  cases kind : ctx.contextType <;> simp [kind,isAuthContext] at auth ⊢

-- Admission past a contending predecessor needs that predecessor to be invisible.
theorem canStart_excludes (contend : Contend self other) (allowed : self.canStart visible = true) :
    other ∉ visible := by
  intro seen
  have blocked := contend.blocked
  obtain ⟨primary,otherPrimary,auth,otherAuth,_⟩ := contend
  rw [canStart_policy auth] at allowed
  simp only [ContextAdmissionPolicy.canStart,primary,auth,Bool.not_true,Bool.or_self,Bool.false_eq_true,
    if_false,List.all_eq_true] at allowed
  simpa [otherPrimary,otherAuth,blocked] using allowed other seen

end UserAuth
