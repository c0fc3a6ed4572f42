import UserAuth.Credential.UserIdmService
import UserAuth.Lib.History
import UserAuth.Pool.ToldToStop

namespace UserAuth

-- Of what has nothing to do with a session.
def IdmEffect.quiet : IdmEffect → Bool
  | .openSession _ | .closeSession _ => false
  | _ => true

-- The token under which a session is opened or closed.
def IdmEffect.session : IdmEffect → Option UInt32
  | .openSession tokenId | .closeSession tokenId => some tokenId
  | _ => none

theorem IdmEffect.session_quiet {effect : IdmEffect} (quiet : effect.quiet = true) : effect.session = none := by
  cases effect <;> first | rfl | cases quiet

namespace IdmWork

def session : IdmWork → Option UInt32
  | .openSession tokenId | .closeSession tokenId _ => some tokenId
  | .emit effect => effect.session
  | _ => none

-- What is left of a piece of work: one that has still to be looked into, or the contexts
-- it has found.
def left : IdmWork → Nat × Nat
  | .cancelCurrentEnroll contextList | .cancelOwn _ contextList _ => (0,contextList.length + 1)
  | _ => (1,0)

-- What a call does without the lock.
def free : IdmWork → Bool
  | .notifyExecutorToDeleteTemplates _ _ => true
  | .emit effect => effect.quiet
  | _ => false

def inner : IdmWork → Bool
  | .lock | .unlock => false
  | _ => true

theorem inner_of_free {item : IdmWork} (free : item.free = true) : item.inner = true := by
  cases item <;> first | rfl | cases free

theorem session_free {item : IdmWork} (free : item.free = true) : item.session = none := by
  cases item with
  | notifyExecutorToDeleteTemplates info changeReasonTrace => rfl
  | emit effect => exact IdmEffect.session_quiet free
  | _ => cases free

end IdmWork

namespace UserIdmService
open IdmWork

-- The rest of a call that does not need the lock any more, that holds it, or that is to
-- take it next.
def Free (work : List IdmWork) : Prop := ∀ item ∈ work, item.free = true

def Inner (work : List IdmWork) : Prop :=
  ∃ body tail, work = body ++ unlock :: tail ∧ (∀ item ∈ body, item.inner = true) ∧ Free tail

def Waiting (work : List IdmWork) : Prop := ∃ rest, work = lock :: rest ∧ Inner rest

def Shape (holds : Prop) (work : List IdmWork) : Prop :=
  (holds ∧ Inner work) ∨ (¬holds ∧ (Free work ∨ Waiting work))

section Shape
variable {holds : Prop} {item : IdmWork} {work rest : List IdmWork}

theorem free_nil : Free [] := fun _ member => absurd member List.not_mem_nil

theorem Free.append (one : Free work) (two : Free rest) : Free (work ++ rest) := by
  intro item member
  exact (List.mem_append.mp member).elim (one item) (two item)

theorem inner_tail (inner : Inner (item :: rest)) (plain : item.inner = true) : Inner rest := by
  obtain ⟨body,tail,split,good,free⟩ := inner
  cases body with
  | nil =>
    cases split
    cases plain
  | cons first body =>
    cases split
    exact ⟨body,tail,rfl,fun item member => good item (List.mem_cons_of_mem _ member),free⟩

theorem inner_unlock (inner : Inner (unlock :: rest)) : Free rest := by
  obtain ⟨body,tail,split,good,free⟩ := inner
  cases body with
  | nil =>
    cases split
    exact free
  | cons first body =>
    cases split
    cases good _ List.mem_cons_self

theorem Inner.push (inner : Inner work) (plain : item.inner = true) : Inner (item :: work) := by
  obtain ⟨body,tail,rfl,good,free⟩ := inner
  refine ⟨item :: body,tail,rfl,?_,free⟩
  intro other member
  rcases List.mem_cons.mp member with rfl | old
  · exact plain
  · exact good other old

-- Whatever needs the lock is done by who has it.
theorem Shape.held (shape : Shape holds (item :: rest)) (bound : item.free = false) (notLock : item ≠ lock) :
    holds ∧ Inner (item :: rest) := by
  rcases shape with has | ⟨_,free | ⟨_,split,_⟩⟩
  · exact has
  · exact absurd (free item List.mem_cons_self) (Bool.eq_false_iff.mp bound)
  · cases split
    exact absurd rfl notLock

theorem Shape.tail (shape : Shape holds (item :: rest)) (plain : item.inner = true) : Shape holds rest := by
  rcases shape with ⟨has,inner⟩ | ⟨none,free | ⟨_,split,_⟩⟩
  · exact .inl ⟨has,inner_tail inner plain⟩
  · exact .inr ⟨none,.inl fun other member => free other (List.mem_cons_of_mem _ member)⟩
  · cases split
    cases plain

theorem inner_underLock (good : ∀ item ∈ work, item.inner = true) (code : ResultCode) :
    Waiting (underLock work code) := by
  refine ⟨work ++ [unlock,emit (.returned code [])],by simp [underLock],work,_,rfl,good,?_⟩
  intro item member
  cases List.mem_singleton.mp member
  rfl

theorem free_notify (infos : List CredentialInfoImpl) (changeReasonTrace : String) :
    Free (notifyExecutorToDeleteTemplates infos changeReasonTrace) := by
  intro item member
  obtain ⟨info,_,rfl⟩ := List.mem_map.mp member
  rfl

theorem free_post (userId : Int32) (credInfos : List CredentialInfoImpl) (changeReasonTrace : String)
    (eventType : UserDeletion) (caller : IdmCaller) :
    Free (postProcessForDelete userId credInfos changeReasonTrace eventType caller) := by
  unfold postProcessForDelete
  refine (((free_notify _ _).append ?_).append ?_).append ?_
  · simp [Free,free,IdmEffect.quiet]
  · intro item member
    obtain ⟨info,_,rfl⟩ := List.mem_map.mp member
    rfl
  · split <;> simp [Free,free,IdmEffect.quiet]

theorem free_inner (userId : Int32) (answer : EngineReply (List CredentialInfoImpl)) (changeReasonTrace : String)
    (caller : IdmCaller) : Free (enforceDelUserInner userId answer changeReasonTrace caller).1 := by
  cases answer with
  | refused code failed => simp [enforceDelUserInner,Free]
  | answered credInfos => exact Free.append (by simp [Free,free,IdmEffect.quiet]) (free_post _ _ _ _ _)

theorem free_redundancy (accountInfo : Option (List Int32))
    (userInfos : EngineReply (List (Int32 × EngineReply (List CredentialInfoImpl)))) (caller : IdmCaller) :
    Free (clearRedundancyCredentialInner accountInfo userInfos caller).1 := by
  cases accountInfo with
  | none => simp [clearRedundancyCredentialInner,Free]
  | some accountInfo =>
    cases userInfos with
    | refused code failed => simp [clearRedundancyCredentialInner,Free]
    | answered userInfos =>
      intro item member
      obtain ⟨user,_,here⟩ := List.mem_flatMap.mp member
      exact free_inner _ _ _ _ item here

theorem free_clear (userId : Int32) (answer : EngineReply (List CredentialInfoImpl)) :
    Free (clearUnavailableCredential userId answer) := by
  cases answer with
  | refused code failed => simp [clearUnavailableCredential,Free]
  | answered credInfos => exact Free.append (by simp [Free,free,IdmEffect.quiet]) (free_notify _ _)

theorem Free.inner (free : Free work) : ∀ item ∈ work, item.inner = true :=
  fun item member => inner_of_free (free item member)

end Shape

-- Whether an enrollment starts only directly after the others are cancelled.
def static : Bool → List IdmWork → Bool
  | _,[] => true
  | cleared,.schedule _ _ :: rest => cleared && static false rest
  | _,.cancelCurrentEnrollIfExist :: rest => static true rest
  | _,.cancelCurrentEnroll _ :: _ => false
  | _,.emit effect :: rest => effect.quiet && static false rest
  | _,_ :: rest => static false rest

def unscheduled : IdmWork → Bool
  | .schedule _ _ | .cancelCurrentEnroll _ => false
  | .emit effect => effect.quiet
  | _ => true

theorem static_unscheduled (none : ∀ item ∈ work, unscheduled item = true) (cleared : Bool) :
    static cleared work = true := by
  induction work generalizing cleared with
  | nil => rfl
  | cons item rest ih =>
    have later := ih fun other member => none other (List.mem_cons_of_mem _ member)
    have here := none item List.mem_cons_self
    cases item with
    | schedule context tokenId => cases here
    | cancelCurrentEnroll contextList => cases here
    | emit effect => exact Bool.and_eq_true_iff.mpr ⟨here,later false⟩
    | _ => exact later _

theorem unscheduled_free (free : Free work) : ∀ item ∈ work, unscheduled item = true := by
  intro item member
  have here := free item member
  cases item <;> first | exact here | cases here

theorem static_underLock (none : ∀ item ∈ work, unscheduled item = true) (code : ResultCode) :
    static false (underLock work code) = true := by
  refine static_unscheduled ?_ false
  intro item member
  simp only [underLock,List.mem_append,List.mem_cons,List.not_mem_nil,or_false] at member
  rcases member with (rfl | old) | rfl | rfl
  · rfl
  · exact none item old
  · rfl
  · rfl

-- A call is free, or takes the lock first. It holds that until its last unlock, and has
-- to do with sessions under its own token only.
structure Proper (tokenId : UInt32) (work : List IdmWork) : Prop where
  shape : Free work ∨ Waiting work
  static : static false work = true
  own : ∀ item ∈ work, ∀ token ∈ item.session, token = tokenId

theorem unsigned {work : List IdmWork} (none : ∀ item ∈ work, item.session = none) :
    ∀ item ∈ work, ∀ token ∈ item.session, token = tokenId := by
  intro item member token signed
  rw [none item member] at signed
  cases signed

theorem Free.proper (free : Free work) : Proper tokenId work :=
  ⟨.inl free,static_unscheduled (unscheduled_free free) false,unsigned fun item member => session_free (free item member)⟩

-- What may be done under the lock.
structure Locked (tokenId : UInt32) (item : IdmWork) : Prop where
  inner : item.inner = true
  unscheduled : unscheduled item = true
  own : ∀ token ∈ item.session, token = tokenId

theorem proper_underLock (locked : ∀ item ∈ work, Locked tokenId item) (code : ResultCode) :
    Proper tokenId (underLock work code) where
  shape := .inr (inner_underLock (fun item member => (locked item member).inner) code)
  static := static_underLock (fun item member => (locked item member).unscheduled) code
  own := by
    intro item member token signed
    simp only [underLock,List.mem_append,List.mem_cons,List.not_mem_nil,or_false] at member
    rcases member with (rfl | old) | rfl | rfl
    · cases signed
    · exact (locked item old).own token signed
    · cases signed
    · cases signed

theorem proper_answer (code : ResultCode) : Proper tokenId (answer code) :=
  Free.proper (by simp [Free,answer,free,IdmEffect.quiet])

theorem proper_add (userId : Int32) (made : Option (UInt64 × Nat)) (caller : IdmCaller) :
    Proper tokenId (addCredential userId made caller) := by
  unfold addCredential
  split
  · exact proper_answer _
  · exact ⟨.inr ⟨_,rfl,[_,_],[],rfl,by simp [IdmWork.inner],by simp [Free]⟩,rfl,unsigned (by simp [IdmWork.session])⟩

theorem Free.cancelling (free : Free work) : ∀ item ∈ [cancelCurrentEnrollIfExist] ++ work, Locked tokenId item := by
  intro item member
  rcases List.mem_append.mp member with first | rest
  · cases List.mem_singleton.mp first
    exact ⟨rfl,rfl,fun _ signed => by cases signed⟩
  · refine ⟨free.inner item rest,unscheduled_free free item rest,fun token signed => ?_⟩
    rw [session_free (free item rest)] at signed
    cases signed

theorem workOf_proper (caller : IdmCaller) (request : IdmRequest) : Proper caller.tokenId (workOf caller request) := by
  have emitted {effect : IdmEffect} (quiet : effect.quiet = true) : Free [emit effect] := by simpa [Free,free] using quiet
  cases request with
  | openSession reply =>
    simp only [workOf]
    split
    · exact (emitted rfl).proper
    cases reply with
    | refused code failed => exact proper_underLock free_nil.cancelling _
    | answered _ =>
      refine proper_underLock (fun item member => ?_) _
      rcases List.mem_cons.mp member with rfl | last
      · exact ⟨rfl,rfl,fun _ signed => by cases signed⟩
      · cases List.mem_singleton.mp last
        exact ⟨rfl,rfl,fun token signed => (Option.some.inj signed).symm⟩
  | closeSession reply =>
    simp only [workOf]
    split
    · exact (emitted rfl).proper
    · refine ⟨.inr ⟨_,rfl,[_],[],rfl,by simp [IdmWork.inner],by simp [Free]⟩,rfl,fun item member token signed => ?_⟩
      simp only [List.mem_cons,List.not_mem_nil,or_false] at member
      rcases member with rfl | rfl | rfl
      · cases signed
      · exact (Option.some.inj signed).symm
      · cases signed
  | getCredentialInfo sync userId reply cleared =>
    have clear : ∀ wanted : Bool, Free (if wanted then clearUnavailableCredential userId cleared else []) := by
      intro wanted
      cases wanted with
      | true => exact free_clear userId cleared
      | false => simp [Free]
    simp only [workOf]
    split
    · exact ((clear _).append (emitted rfl)).proper
    · exact (((emitted rfl).append (clear _)).append (emitted rfl)).proper
  | addCredential userId made => exact proper_add userId made caller
  | updateCredential userId credInfos made =>
    simp only [workOf]
    cases credInfos with
    | refused code failed => exact proper_answer _
    | answered credInfos =>
      dsimp only
      split
      · exact Free.proper (by simp [Free,free,IdmEffect.quiet])
      · exact proper_add userId made caller
  | cancel =>
    simp only [workOf]
    split
    · exact (emitted rfl).proper
    · exact ⟨.inr ⟨_,rfl,[_],[],rfl,by simp [IdmWork.inner],by simp [Free]⟩,rfl,unsigned (by simp [IdmWork.session])⟩
  | deleteSubProfile userId reply =>
    simp only [workOf]
    split
    · exact proper_answer _
    cases reply with
    | refused code failed => exact proper_answer _
    | answered hdiInfos =>
      exact (((emitted rfl).append (free_notify _ _)).append (by simp [Free,free,IdmEffect.quiet,answer])).proper
  | enforceDelUser userId enrolledInfo reply =>
    simp only [workOf]
    split
    · exact proper_answer _
    refine proper_underLock ?_ _
    rw [List.append_assoc]
    refine Free.cancelling (Free.append ?_ (emitted rfl))
    cases enrolledInfo with
    | refused code failed => simp [Free]
    | answered enrolledInfo =>
      cases enrolledInfo with
      | nil => simp [Free]
      | cons first enrolledInfo => exact free_inner _ _ _ _
  | delUser userId reply =>
    simp only [workOf]
    split
    · exact proper_answer _
    cases reply with
    | refused code failed => exact proper_underLock (Free.cancelling (emitted rfl)) _
    | answered given =>
      obtain ⟨credInfos,rootSecret⟩ := given
      have first : Free [emit (.engineDeleted userId credInfos rootSecret),emit (.onResult ResultCode.SUCCESS)] := by
        simp [Free,free,IdmEffect.quiet]
      refine proper_underLock (first.append ?_).cancelling _
      split
      · simp [Free]
      · exact free_post _ _ _ _ _
  | delCredential userId made =>
    simp only [workOf]
    split
    · exact proper_answer _
    · exact ⟨.inr ⟨_,rfl,[_,_],[],rfl,by simp [IdmWork.inner],by simp [Free]⟩,rfl,unsigned (by simp [IdmWork.session])⟩
  | clearRedundancy accountInfo userInfos =>
    simp only [workOf]
    split
    · exact proper_answer _
    · refine proper_underLock ?_ _
      rw [List.append_assoc]
      exact Free.cancelling ((free_redundancy _ _ _).append (emitted rfl))

-- What is so when a call comes to its next piece of work.
def Ahead (told : Context → Prop) (enrollments : List Context) : List IdmWork → Prop
  | .schedule _ _ :: rest => (∀ context ∈ enrollments, told context) ∧ static false rest = true
  | .cancelCurrentEnroll contextList :: rest =>
    (∀ context ∈ enrollments, told context ∨ context ∈ contextList) ∧ static true rest = true
  | work => static false work = true

section Ahead
variable {told : Context → Prop} {enrollments : List Context} {work : List IdmWork}

theorem ahead_static (proper : static false work = true) : Ahead told enrollments work := by
  cases work with
  | nil => rfl
  | cons item rest =>
    cases item with
    | schedule context tokenId => cases proper
    | cancelCurrentEnroll contextList => cases proper
    | _ => exact proper

theorem ahead_cleared (clear : ∀ context ∈ enrollments, told context) (proper : static true work = true) :
    Ahead told enrollments work := by
  cases work with
  | nil => rfl
  | cons item rest =>
    cases item with
    | schedule context tokenId => exact ⟨clear,proper⟩
    | cancelCurrentEnroll contextList => cases proper
    | _ => exact proper

theorem Ahead.mono {later : Context → Prop} {fewer : List Context} (ahead : Ahead told enrollments work)
    (sub : ∀ context ∈ fewer, context ∈ enrollments ∧ (told context → later context)) : Ahead later fewer work := by
  cases work with
  | nil => rfl
  | cons item rest =>
    cases item with
    | schedule context tokenId =>
      exact ⟨fun other member => (sub other member).2 (ahead.1 other (sub other member).1),ahead.2⟩
    | cancelCurrentEnroll contextList =>
      exact ⟨fun other member => (ahead.1 other (sub other member).1).imp_left (sub other member).2,ahead.2⟩
    | _ => exact ahead

-- Without the lock nothing is at stake.
theorem Ahead.unheld (ahead : Ahead told enrollments work) (unheld : Free work ∨ Waiting work) :
    static false work = true := by
  cases work with
  | nil => rfl
  | cons item rest =>
    cases item with
    | schedule context tokenId =>
      rcases unheld with free | ⟨_,split,_⟩
      · cases free _ List.mem_cons_self
      · cases split
    | cancelCurrentEnroll contextList =>
      rcases unheld with free | ⟨_,split,_⟩
      · cases free _ List.mem_cons_self
      · cases split
    | _ => exact ahead

end Ahead

def handshakeEvent : IdmEvent → Option HandshakeEvent
  | .handshake event => some event
  | _ => none

def handshakeLog (h : List IdmEvent) : List HandshakeEvent := h.filterMap handshakeEvent

def opened : IdmEvent → Option UInt32
  | .effect _ (.openSession tokenId) => some tokenId
  | _ => none

def lastOpened (h : List IdmEvent) : Option UInt32 := (h.filterMap opened).getLast?

-- Only for the caller who opened the session last is one closed.
def OwnSession (before : List IdmEvent) (event : IdmEvent) : Prop :=
  ∀ call tokenId, event = .effect call (.closeSession tokenId) → lastOpened before = some tokenId

-- The call is one whose caller has the token.
def Asks (call : Nat) (tokenId : UInt32) (h : List IdmEvent) : Prop :=
  ∃ caller request, .request call caller request ∈ h ∧ caller.tokenId = tokenId

def OwnToken (before : List IdmEvent) (event : IdmEvent) : Prop :=
  ∀ call effect tokenId, event = .effect call effect → effect.session = some tokenId → Asks call tokenId before

structure Signed (s : UserIdmService) (h : List IdmEvent) : Prop where
  work : ∀ call, ∀ item ∈ s.calls call, ∀ tokenId ∈ item.session, Asks call tokenId h
  said : History.Each OwnToken h

structure Exclusive (s : UserIdmService) (h : List IdmEvent) : Prop where
  valid : s.handshake.Valid (handshakeLog h)
  shape : ∀ call, Shape (s.mutex = some call) (s.calls call)
  fresh : ∀ call, s.nextCall ≤ call → s.calls call = []
  older : ∀ a ∈ s.enrollments, ∀ b ∈ s.enrollments, a.ref < b.ref → s.handshake.Told (handshakeLog h) a
  ahead : ∀ call, Ahead (s.handshake.Told (handshakeLog h)) s.enrollments (s.calls call)
  session : s.sessionTokenId = lastOpened h
  closes : History.Each OwnSession h

def quietEvent : IdmEvent → Bool
  | .handshake _ => false
  | .request _ _ _ => true
  | .effect _ effect => effect.quiet

section Steps
variable {s : UserIdmService} {h more : List IdmEvent}

theorem handshakeLog_append (h more : List IdmEvent) : handshakeLog (h ++ more) = handshakeLog h ++ handshakeLog more :=
  List.filterMap_append

theorem handshakeLog_quiet (quiet : ∀ event ∈ more, quietEvent event = true) : handshakeLog more = [] := by
  refine List.filterMap_eq_nil_iff.mpr fun event member => ?_
  have here := quiet event member
  cases event with
  | handshake event => cases here
  | _ => rfl

theorem lastOpened_append (none : ∀ event ∈ more, opened event = none) : lastOpened (h ++ more) = lastOpened h := by
  have nothing : more.filterMap opened = [] := List.filterMap_eq_nil_iff.mpr none
  unfold lastOpened
  rw [List.filterMap_append,nothing,List.append_nil]

theorem Exclusive.quiet (ex : Exclusive s h) (quiet : ∀ event ∈ more, quietEvent event = true) :
    Exclusive s (h ++ more) := by
  have same : handshakeLog (h ++ more) = handshakeLog h := by
    rw [handshakeLog_append,handshakeLog_quiet quiet,List.append_nil]
  have unopened : ∀ event ∈ more, opened event = none := by
    intro event member
    have here := quiet event member
    cases event with
    | effect call effect => cases effect <;> first | rfl | cases here
    | _ => rfl
  exact {
    valid := same ▸ ex.valid
    shape := ex.shape
    fresh := ex.fresh
    older := same ▸ ex.older
    ahead := same ▸ ex.ahead
    session := ex.session.trans (lastOpened_append unopened).symm
    closes := by
      refine ex.closes.append fun before event member => ?_
      rintro call tokenId rfl
      exact absurd (quiet _ member) Bool.false_ne_true}

-- Of a call that goes on, and may take the lock or leave it.
theorem Exclusive.advance (ex : Exclusive s h) (call : Nat) (work : List IdmWork) (mutex : Option Nat)
    (known : call < s.nextCall) (others : ∀ other, other ≠ call → (mutex = some other ↔ s.mutex = some other))
    (shape : Shape (mutex = some call) work) (ahead : Ahead (s.handshake.Told (handshakeLog h)) s.enrollments work) :
    Exclusive {s with mutex,calls:=Function.update s.calls call work} h := {ex with
  shape := by
    intro other
    dsimp only
    by_cases same : other = call
    · subst same
      rwa [Function.update_self]
    · rw [Function.update_of_ne same]
      have before := ex.shape other
      unfold Shape at before ⊢
      rwa [others other same]
  fresh := by
    intro other late
    have apart : other ≠ call := fun same => absurd (same ▸ late) (Nat.not_le.mpr known)
    exact (Function.update_of_ne apart _ _).trans (ex.fresh other late)
  ahead := by
    intro other
    dsimp only
    by_cases same : other = call
    · subst same
      rw [Function.update_self]
      exact ahead
    · rw [Function.update_of_ne same]
      exact ex.ahead other}

-- The pool and its handshake move, and nothing new enrolls.
theorem Exclusive.handshake (ex : Exclusive s h) (op : HandshakeOp)
    (settled : ∀ context ∈ (s.handshake.step op).1.pool.contexts, context.contextType = .enroll →
      context ∈ s.handshake.pool.contexts)
    (log : handshakeLog more = (s.handshake.step op).2) (unopened : ∀ event ∈ more, opened event = none)
    (closes : ∀ before, ∀ event ∈ more, OwnSession before event) :
    Exclusive {s with handshake:=(s.handshake.step op).1} (h ++ more) := by
  have told : ∀ context ∈ s.enrollments, s.handshake.Told (handshakeLog h) context →
      (s.handshake.step op).1.Told (handshakeLog (h ++ more)) context := by
    intro context member told
    rw [handshakeLog_append,log]
    exact Handshake.step_told op ex.valid (List.mem_of_mem_filter member) told
  have sub : ∀ context ∈ enrollments {s with handshake:=(s.handshake.step op).1}, context ∈ s.enrollments := by
    intro context member
    obtain ⟨pooled,kind⟩ := List.mem_filter.mp member
    exact List.mem_filter.mpr ⟨settled context pooled (of_decide_eq_true kind),kind⟩
  exact {
    valid := by
      rw [handshakeLog_append,log]
      exact Handshake.step_valid _ _ op ex.valid
    shape := ex.shape
    fresh := ex.fresh
    older := fun a inA b inB earlier => told a (sub a inA) (ex.older a (sub a inA) b (sub b inB) earlier)
    ahead := fun call => (ex.ahead call).mono fun context member => ⟨sub context member,told context (sub context member)⟩
    session := ex.session.trans (lastOpened_append unopened).symm
    closes := ex.closes.append closes}

theorem Exclusive.others (ex : Exclusive s h) (op : HandshakeOp) (foreign : othersOp op = true) :
    Exclusive {s with handshake:=(s.handshake.step op).1} (h ++ (s.handshake.step op).2.map .handshake) := by
  refine ex.handshake op ?_ ?_ ?_ ?_
  · intro context member kind
    rcases Handshake.step_arrivals op ex.valid member with old | ⟨preempt,arrival,rfl,rfl⟩
    · exact old
    · simp only [othersOp,bne_iff_ne] at foreign
      exact absurd kind foreign
  · unfold handshakeLog
    rw [List.filterMap_map]
    exact List.filterMap_some
  · intro event member
    obtain ⟨inside,_,rfl⟩ := List.mem_map.mp member
    rfl
  · intro before event member call tokenId same
    obtain ⟨inside,_,rfl⟩ := List.mem_map.mp member
    cases same

theorem Exclusive.cancelContext (ex : Exclusive s h) (context : Context) (call : Nat) :
    Exclusive (s.cancelContext context).1 (h ++ (s.cancelContext context).2.map (.effect call)) ∧
      (s.cancelContext context).1.handshake.Told
        (handshakeLog (h ++ (s.cancelContext context).2.map (.effect call))) context := by
  constructor
  · refine ex.handshake (.pool (.cancel context.contextId)) ?_ rfl ?_ ?_
    · intro other member _
      exact member
    · intro event member
      cases List.mem_singleton.mp member
      rfl
    · intro before event member other tokenId same
      cases List.mem_singleton.mp member
      cases same
  · rw [handshakeLog_append]
    exact (Handshake.told_cancel s.handshake _ context).more _

-- With all others told, one more enrolls.
theorem Exclusive.enroll (ex : Exclusive s h) (context : Context) (tokenId : UInt32) (preempt : PreemptAnswers)
    (clear : ∀ other ∈ s.enrollments, s.handshake.Told (handshakeLog h) other)
    (idle : ∀ call, static false (s.calls call) = true) :
    Exclusive {s.poolOp (.schedule preempt context) with
      tokens:=Function.update s.tokens s.handshake.nextRef tokenId} h := by
  let op : HandshakeOp := .pool (.schedule preempt context)
  have silent : (s.handshake.step op).2 = [] := rfl
  have told : ∀ other ∈ s.enrollments, (s.handshake.step op).1.Told (handshakeLog h) other := by
    intro other member
    have moved := Handshake.step_told op ex.valid (List.mem_of_mem_filter member) (clear other member)
    rwa [silent,List.append_nil] at moved
  have split : ∀ other ∈ (s.poolOp (.schedule preempt context)).enrollments,
      other ∈ s.enrollments ∨ other.ref = s.handshake.nextRef := by
    intro other member
    obtain ⟨pooled,kind⟩ := List.mem_filter.mp member
    rcases Handshake.step_arrivals op ex.valid pooled with old | ⟨_,arrival,_,rfl⟩
    · exact .inl (List.mem_filter.mpr ⟨old,kind⟩)
    · exact .inr rfl
  exact {ex with
    valid := by
      have moved := Handshake.step_valid _ _ op ex.valid
      rwa [silent,List.append_nil] at moved
    older := by
      intro a inA b inB earlier
      rcases split a inA with old | new
      · exact told a old
      · have known : b.ref ≤ s.handshake.nextRef := by
          rcases split b inB with old | new
          · exact Nat.le_of_lt (Handshake.known ex.valid (List.mem_of_mem_filter old))
          · exact Nat.le_of_eq new
        exact absurd earlier (Nat.not_lt.mpr (new ▸ known))
    ahead := fun call => ahead_static (idle call)}

theorem Exclusive.known (ex : Exclusive s h) (busy : s.calls call ≠ []) : call < s.nextCall :=
  Nat.lt_of_not_le fun late => busy (ex.fresh call late)

-- Who holds the lock is alone in it.
theorem Exclusive.idle (ex : Exclusive s h) (holds : s.mutex = some call) (apart : other ≠ call) :
    static false (s.calls other) = true := by
  refine (ex.ahead other).unheld ?_
  rcases ex.shape other with ⟨also,_⟩ | ⟨_,unheld⟩
  · exact absurd (Option.some.inj (also.symm.trans holds)) apart
  · exact unheld

section Proceed
variable {call : Nat} {item : IdmWork} {rest : List IdmWork}

-- A piece of work that leaves the pool and the lock alone.
theorem Exclusive.pop (ex : Exclusive s h) (here : s.calls call = item :: rest) (plain : item.inner = true)
    (ahead : Ahead (s.handshake.Told (handshakeLog h)) s.enrollments rest) :
    Exclusive {s with calls:=Function.update s.calls call rest} h := by
  have shape := ex.shape call
  rw [here] at shape
  exact ex.advance call rest s.mutex (ex.known (by simp [here])) (fun _ _ => Iff.rfl) (shape.tail plain) ahead

-- One that has to be done under the lock, and goes on with another.
theorem Exclusive.swap (ex : Exclusive s h) (here : s.calls call = item :: rest) (bound : item.free = false)
    (plain : item.inner = true) (next : IdmWork) (also : next.inner = true)
    (ahead : Ahead (s.handshake.Told (handshakeLog h)) s.enrollments (next :: rest)) :
    Exclusive {s with calls:=Function.update s.calls call (next :: rest)} h := by
  have shape := ex.shape call
  rw [here] at shape
  have notLock : item ≠ lock := by
    rintro rfl
    cases plain
  obtain ⟨holds,inner⟩ := shape.held bound notLock
  refine ex.advance call (next :: rest) s.mutex (ex.known (by simp [here])) (fun _ _ => Iff.rfl) ?_ ahead
  exact .inl ⟨holds,(inner_tail inner plain).push also⟩

theorem ahead_at (ex : Exclusive s h) (here : s.calls call = item :: rest) :
    Ahead (s.handshake.Told (handshakeLog h)) s.enrollments (item :: rest) := here ▸ ex.ahead call

theorem Exclusive.holds (ex : Exclusive s h) (here : s.calls call = item :: rest) (bound : item.free = false)
    (notLock : item ≠ lock) : s.mutex = some call ∧ Inner (item :: rest) :=
  (here ▸ ex.shape call : Shape (s.mutex = some call) (item :: rest)).held bound notLock

theorem Exclusive.effects (ex : Exclusive s h) (call : Nat) (effects : List IdmEffect)
    (quiet : ∀ effect ∈ effects, effect.quiet = true) : Exclusive s (h ++ effects.map (.effect call)) := by
  refine ex.quiet fun event member => ?_
  obtain ⟨effect,inside,rfl⟩ := List.mem_map.mp member
  exact quiet effect inside

theorem Exclusive.lock (ex : Exclusive s h) (here : s.calls call = lock :: rest) (unheld : s.mutex = none) :
    Exclusive {s with mutex:=some call,calls:=Function.update s.calls call rest} h := by
  have shape : Shape (s.mutex = some call) (.lock :: rest) := here ▸ ex.shape call
  refine ex.advance call rest (some call) (ex.known (by simp [here])) ?_ ?_ ?_
  · intro other apart
    simp [unheld,Ne.symm apart]
  · rcases shape with ⟨holds,_⟩ | ⟨_,free | ⟨_,split,inner⟩⟩
    · cases unheld.symm.trans holds
    · cases free _ List.mem_cons_self
    · cases split
      exact .inl ⟨rfl,inner⟩
  · exact ahead_static (ahead_at ex here)

theorem Exclusive.unlock (ex : Exclusive s h) (here : s.calls call = unlock :: rest) :
    Exclusive {s with mutex:=none,calls:=Function.update s.calls call rest} h := by
  obtain ⟨holds,inner⟩ := ex.holds here rfl (by simp)
  refine ex.advance call rest none (ex.known (by simp [here])) ?_ ?_ ?_
  · intro other apart
    simp [holds,Ne.symm apart]
  · exact .inr ⟨by simp,.inl (inner_unlock inner)⟩
  · exact ahead_static (ahead_at ex here)

-- The next of those that enroll is told, if it still is there.
theorem Exclusive.cancelNext (ex : Exclusive s h) {context : Context} {contextList : List Context}
    (here : s.calls call = .cancelCurrentEnroll (context :: contextList) :: rest) (alive : Bool) :
    let cancelled := if context ∈ s.handshake.pool.contexts ∨ alive = true then s.cancelContext context else (s,[])
    Exclusive {cancelled.1 with calls:=Function.update s.calls call (.cancelCurrentEnroll contextList :: rest)}
      (h ++ cancelled.2.map (.effect call)) := by
  intro cancelled
  by_cases there : context ∈ s.handshake.pool.contexts ∨ alive = true
  · obtain ⟨moved,told⟩ := ex.cancelContext context call
    have ahead := ahead_at moved here
    simp only [cancelled,if_pos there]
    refine moved.swap here rfl rfl _ rfl ⟨fun other member => ?_,ahead.2⟩
    rcases ahead.1 other member with done | left
    · exact .inl done
    · rcases List.mem_cons.mp left with rfl | left
      · exact .inl told
      · exact .inr left
  · have ahead := ahead_at ex here
    simp only [cancelled,if_neg there,List.map_nil,List.append_nil]
    refine ex.swap here rfl rfl _ rfl ⟨fun other member => ?_,ahead.2⟩
    refine (ahead.1 other member).imp_right fun left => ?_
    rcases List.mem_cons.mp left with rfl | left
    · exact absurd (.inl (List.mem_of_mem_filter member)) there
    · exact left

theorem Exclusive.openSession (ex : Exclusive s h) (call : Nat) (tokenId : UInt32) :
    Exclusive {s with sessionTokenId:=some tokenId} (h ++ [.effect call (.openSession tokenId)]) := by
  have log : handshakeLog (h ++ [.effect call (.openSession tokenId)]) = handshakeLog h := by
    rw [handshakeLog_append]
    exact List.append_nil _
  exact {
    valid := log.symm ▸ ex.valid
    shape := ex.shape
    fresh := ex.fresh
    older := log.symm ▸ ex.older
    ahead := log.symm ▸ ex.ahead
    session := by simp [lastOpened,opened]
    closes := History.each_concat.mpr ⟨ex.closes,by simp [OwnSession]⟩}

theorem Exclusive.closeSession (ex : Exclusive s h) (call : Nat) (tokenId : UInt32)
    (own : s.sessionTokenId = some tokenId) :
    Exclusive s (h ++ [.effect call (.closeSession tokenId)]) := by
  have log : handshakeLog (h ++ [.effect call (.closeSession tokenId)]) = handshakeLog h := by
    rw [handshakeLog_append]
    exact List.append_nil _
  exact {
    valid := log.symm ▸ ex.valid
    shape := ex.shape
    fresh := ex.fresh
    older := log.symm ▸ ex.older
    ahead := log.symm ▸ ex.ahead
    session := ex.session.trans (lastOpened_append (by simp [opened])).symm
    closes := by
      refine History.each_concat.mpr ⟨ex.closes,?_⟩
      intro other token same
      cases same
      exact ex.session.symm.trans own}

theorem schedule_state (s : UserIdmService) (context : Context) (tokenId : UInt32) (preempt : PreemptAnswers) :
    (s.schedule (some context) tokenId preempt).1 = {s.poolOp (.schedule preempt context) with
      tokens:=Function.update s.tokens s.handshake.nextRef tokenId} ∧
      (s.schedule (some context) tokenId preempt).2.1 = [] := by
  simp only [UserIdmService.schedule]
  split
  · exact ⟨rfl,rfl⟩
  · exact ⟨rfl,rfl⟩

theorem schedule_quiet (s : UserIdmService) (context : Option Context) (tokenId : UInt32) (preempt : PreemptAnswers) :
    ∀ effect ∈ (s.schedule context tokenId preempt).2.2, effect.quiet = true := by
  unfold UserIdmService.schedule
  cases context with
  | none => simp [IdmEffect.quiet]
  | some context =>
    dsimp only
    split <;> simp [IdmEffect.quiet]

theorem Exclusive.schedule (ex : Exclusive s h) {context : Option Context} {tokenId : UInt32}
    (here : s.calls call = .schedule context tokenId :: rest) (preempt : PreemptAnswers) :
    let done := s.schedule context tokenId preempt
    Exclusive {done.1 with calls:=Function.update s.calls call (done.2.1 ++ rest)} (h ++
      done.2.2.map (.effect call)) := by
  intro done
  have ahead := ahead_at ex here
  obtain ⟨holds,_⟩ := ex.holds here rfl (by simp)
  have popped := ex.pop here rfl (ahead_static ahead.2)
  refine Exclusive.effects ?_ call _ (schedule_quiet s context tokenId preempt)
  cases context with
  | none => exact popped
  | some context =>
    obtain ⟨state,rest⟩ := schedule_state s context tokenId preempt
    simp only [done,state,rest,List.nil_append]
    refine popped.enroll context tokenId preempt ahead.1 fun other => ?_
    dsimp only
    by_cases same : other = call
    · subst same
      rw [Function.update_self]
      exact ahead.2
    · rw [Function.update_of_ne same]
      exact ex.idle holds same

theorem Exclusive.proceed (ex : Exclusive s h) (call : Nat) (alive : Bool) (preempt : PreemptAnswers) :
    Exclusive (s.proceed call alive preempt).1 (h ++ (s.proceed call alive preempt).2) := by
  unfold UserIdmService.proceed
  cases here : s.calls call with
  | nil => exact (List.append_nil h).symm ▸ ex
  | cons item rest =>
    have ahead := ahead_at ex here
    cases item with
    | lock =>
      dsimp only
      split
      · exact (List.append_nil h).symm ▸ ex
      · rename_i unheld
        exact (List.append_nil h).symm ▸ ex.lock here (Option.not_isSome_iff_eq_none.mp unheld)
    | unlock => exact (List.append_nil h).symm ▸ ex.unlock here
    | cancelCurrentEnrollIfExist =>
      refine (List.append_nil h).symm ▸ ex.swap here rfl rfl (.cancelCurrentEnroll s.enrollments) rfl ?_
      exact ⟨fun other member => .inr member,ahead⟩
    | cancelCurrentEnroll contextList =>
      cases contextList with
      | nil =>
        refine (List.append_nil h).symm ▸ ex.pop here rfl (ahead_cleared ?_ ahead.2)
        intro other member
        exact (ahead.1 other member).resolve_right (by simp)
      | cons context contextList => exact ex.cancelNext here alive
    | cancelOwnEnroll tokenId => exact (List.append_nil h).symm ▸ ex.swap here rfl rfl _ rfl ahead
    | cancelOwn tokenId contextList ret =>
      cases contextList with
      | nil => exact (ex.pop here rfl (ahead_static ahead)).effects call [.returned ret []] (by simp [IdmEffect.quiet])
      | cons context contextList =>
        simp only [perform]
        split
        · have moved := (ex.cancelContext context call).1
          have further := ahead_at moved here
          exact moved.swap here rfl rfl (.cancelOwn tokenId contextList ResultCode.SUCCESS) rfl further
        · exact (List.append_nil h).symm ▸ ex.swap here rfl rfl (.cancelOwn tokenId contextList ret) rfl ahead
    | openSession tokenId => exact (ex.pop here rfl (ahead_static ahead)).openSession call tokenId
    | closeSession tokenId answer =>
      have popped := ex.pop here rfl (ahead_static ahead)
      simp only [perform]
      split
      · exact popped.effects call [.returned _ []] (by simp [IdmEffect.quiet])
      · rename_i own
        have closed := popped.closeSession call tokenId (not_not.mp own)
        have answered (code : ResultCode) := closed.effects call [.returned code []] (by simp [IdmEffect.quiet])
        simp only [List.append_assoc] at answered
        exact answered _
    | schedule context tokenId => exact ex.schedule here preempt
    | notifyExecutorToDeleteTemplates info changeReasonTrace =>
      refine (ex.pop here rfl (ahead_static ahead)).effects call _ ?_
      intro effect member
      cases List.mem_singleton.mp member
      unfold notify
      split <;> rfl
    | emit effect =>
      obtain ⟨quiet,proper⟩ := Bool.and_eq_true_iff.mp ahead
      exact (ex.pop here rfl (ahead_static proper)).effects call [effect] (by simpa using quiet)

end Proceed

theorem Exclusive.request (ex : Exclusive s h) (caller : IdmCaller) (request : IdmRequest) :
    Exclusive {s with
      calls:=Function.update s.calls s.nextCall (workOf caller request)
      nextCall:=s.nextCall + 1} (h ++ [.request s.nextCall caller request]) := by
  have idle : s.calls s.nextCall = [] := ex.fresh _ (Nat.le_refl _)
  have unheld : s.mutex ≠ some s.nextCall := by
    intro holds
    rcases ex.shape s.nextCall with ⟨_,_,_,split,_⟩ | ⟨none,_⟩
    · rw [idle] at split
      simp at split
    · exact none holds
  have proper := workOf_proper caller request
  have grown : Exclusive {s with nextCall:=s.nextCall + 1} h :=
    {ex with fresh := fun other late => ex.fresh other (Nat.le_of_succ_le late)}
  have begun := grown.advance s.nextCall (workOf caller request) s.mutex (Nat.lt_succ_self _) (fun _ _ => Iff.rfl)
    (.inr ⟨unheld,proper.shape⟩) (ahead_static proper.static)
  exact begun.quiet (by simp [quietEvent])

theorem exclusive_step (s : UserIdmService) (h : List IdmEvent) (i : IdmInput) (ex : Exclusive s h) :
    Exclusive (s.step i).1 (h ++ (s.step i).2) := by
  cases i with
  | request caller request => exact ex.request caller request
  | proceed call alive preempt => exact ex.proceed call alive preempt
  | handshake op =>
    simp only [step]
    split
    · rename_i foreign
      exact ex.others op foreign
    · exact (List.append_nil h).symm ▸ ex
  | executorRegister executorIndex authType executorRole => exact (List.append_nil h).symm ▸ {ex with}
  | executorDelete executorIndex => exact (List.append_nil h).symm ▸ {ex with}
  | callback ref callback => exact (List.append_nil h).symm ▸ {ex with}

end Steps

section Tokens
variable {s : UserIdmService} {h more : List IdmEvent} {call : Nat} {item : IdmWork} {rest : List IdmWork}

theorem Asks.still (asks : Asks call tokenId h) (more : List IdmEvent) : Asks call tokenId (h ++ more) := by
  obtain ⟨caller,request,asked,own⟩ := asks
  exact ⟨caller,request,List.mem_append_left _ asked,own⟩

theorem ownToken_stays (before later : List IdmEvent) (event : IdmEvent) (own : OwnToken before event) :
    OwnToken (before ++ later) event :=
  fun call effect tokenId same signed => (own call effect tokenId same signed).still later

-- What is done and what is added is under no token but the item's.
theorem perform_signed (s : UserIdmService) (alive : Bool) (preempt : PreemptAnswers) (item : IdmWork) :
    (∀ more ∈ (s.perform alive preempt item).2.1, more.session = none) ∧
      ∀ effect ∈ (s.perform alive preempt item).2.2, ∀ tokenId ∈ effect.session, tokenId ∈ item.session := by
  cases item with
  | cancelCurrentEnroll contextList =>
    cases contextList with
    | nil => exact ⟨fun _ none => absurd none List.not_mem_nil,fun _ none => absurd none List.not_mem_nil⟩
    | cons context contextList =>
      simp only [perform]
      split <;> simp [cancelContext,IdmWork.session,IdmEffect.session]
  | cancelOwn tokenId contextList ret =>
    cases contextList with
    | nil => simp [perform,IdmEffect.session]
    | cons context contextList =>
      simp only [perform]
      split <;> simp [cancelContext,IdmWork.session,IdmEffect.session]
  | closeSession tokenId answer =>
    simp only [perform]
    split <;> simp [IdmWork.session,IdmEffect.session]
  | schedule context tokenId =>
    cases context with
    | none => simp [perform,UserIdmService.schedule,IdmEffect.session]
    | some context =>
      simp only [perform,UserIdmService.schedule]
      split <;> simp [IdmEffect.session]
  | notifyExecutorToDeleteTemplates info changeReasonTrace =>
    simp only [perform,notify]
    split <;> simp [IdmEffect.session]
  | _ => simp [perform,IdmWork.session,IdmEffect.session]

theorem Signed.quiet {next : UserIdmService} (signed : Signed s h) (calls : next.calls = s.calls)
    (unsaid : ∀ event ∈ more, ∀ call effect, event ≠ .effect call effect) : Signed next (h ++ more) where
  work := by
    intro call item member tokenId own
    rw [calls] at member
    exact (signed.work call item member tokenId own).still more
  said := signed.said.grow ownToken_stays fun event member call effect _ same _ =>
    absurd same (unsaid event member call effect)

theorem Signed.request (signed : Signed s h) (caller : IdmCaller) (request : IdmRequest) :
    Signed {s with calls:=Function.update s.calls s.nextCall (workOf caller request),nextCall:=s.nextCall + 1}
      (h ++ [.request s.nextCall caller request]) where
  work := by
    intro call item member tokenId own
    dsimp only at member
    by_cases new : call = s.nextCall
    · subst new
      rw [Function.update_self] at member
      refine ⟨caller,request,List.mem_append_right _ List.mem_cons_self,?_⟩
      exact ((workOf_proper caller request).own item member tokenId own).symm
    · rw [Function.update_of_ne new] at member
      exact (signed.work call item member tokenId own).still _
  said := signed.said.grow ownToken_stays (by simp [OwnToken])

theorem Signed.perform (signed : Signed s h) (here : s.calls call = item :: rest) (alive : Bool)
    (preempt : PreemptAnswers) :
    let done := s.perform alive preempt item
    Signed {done.1 with calls:=Function.update s.calls call (done.2.1 ++ rest)} (h ++ done.2.2.map (.effect call)) := by
  intro done
  obtain ⟨added,said⟩ := perform_signed s alive preempt item
  have asks : ∀ other ∈ item :: rest, ∀ tokenId ∈ other.session, Asks call tokenId h := here ▸ signed.work call
  refine ⟨?_,signed.said.grow ownToken_stays ?_⟩
  · intro other work member tokenId own
    dsimp only at member
    by_cases same : other = call
    · subst same
      rw [Function.update_self] at member
      rcases List.mem_append.mp member with new | old
      · rw [added work new] at own
        cases own
      · exact (asks work (List.mem_cons_of_mem _ old) tokenId own).still _
    · rw [Function.update_of_ne same] at member
      exact (signed.work other work member tokenId own).still _
  · intro event member other effect tokenId same own
    obtain ⟨_,inside,rfl⟩ := List.mem_map.mp member
    cases same
    exact asks item List.mem_cons_self tokenId (said effect inside tokenId own)

theorem signed_step (s : UserIdmService) (h : List IdmEvent) (i : IdmInput) (signed : Signed s h) :
    Signed (s.step i).1 (h ++ (s.step i).2) := by
  cases i with
  | request caller request => exact signed.request caller request
  | proceed call alive preempt =>
    cases here : s.calls call with
    | nil =>
      simp only [step,UserIdmService.proceed,here]
      exact (List.append_nil h).symm ▸ signed
    | cons item rest =>
      by_cases outside : item = lock
      · subst outside
        simp only [step,UserIdmService.proceed,here]
        split
        · exact (List.append_nil h).symm ▸ signed
        · have moved := signed.perform here alive preempt
          exact {moved with}
      · simp only [step,proceed_item here outside]
        exact signed.perform here alive preempt
  | handshake op =>
    simp only [step]
    split
    · refine signed.quiet rfl fun event member call effect same => ?_
      obtain ⟨inside,_,rfl⟩ := List.mem_map.mp member
      cases same
    · exact (List.append_nil h).symm ▸ signed
  | executorRegister executorIndex authType executorRole => exact (List.append_nil h).symm ▸ {signed with}
  | executorDelete executorIndex => exact (List.append_nil h).symm ▸ {signed with}
  | callback ref callback => exact (List.append_nil h).symm ▸ {signed with}

end Tokens

section Release
variable {s : UserIdmService} {call : Nat} {item : IdmWork} {rest : List IdmWork}

-- What the rest of a call has to look into, and the contexts it has found.
def remains (work : List IdmWork) : Nat × Nat := ((work.map (·.left.1)).sum,(work.map (·.left.2)).sum)

def shorter : Nat × Nat → Nat × Nat → Prop := Prod.Lex (· < ·) (· < ·)

theorem shorter_wellFounded : WellFounded shorter := (Prod.lex Nat.lt_wfRel Nat.lt_wfRel).wf

theorem shorter_looked {added : List IdmWork} (one : item.left.1 = 1) (none : ∀ more ∈ added, more.left.1 = 0) :
    shorter (remains (added ++ rest)) (remains (item :: rest)) := by
  have nothing : (added.map (·.left.1)).sum = 0 := by
    rw [List.sum_eq_zero_iff_forall_eq_nat]
    intro size member
    obtain ⟨more,inside,rfl⟩ := List.mem_map.mp member
    exact none more inside
  refine Prod.lex_def.mpr (.inl ?_)
  simp [remains,nothing,one]

theorem shorter_found {added : List IdmWork} (same : item.left.1 = (added.map (·.left.1)).sum)
    (less : (added.map (·.left.2)).sum < item.left.2) : shorter (remains (added ++ rest)) (remains (item :: rest)) := by
  refine Prod.lex_def.mpr (.inr ⟨?_,?_⟩)
  · simp [remains,same]
  · simpa [remains] using less

-- One that is looked into is gone, whatever it has found.
theorem perform_shorter (s : UserIdmService) (alive : Bool) (preempt : PreemptAnswers) (item : IdmWork)
    (rest : List IdmWork) :
    shorter (remains ((s.perform alive preempt item).2.1 ++ rest)) (remains (item :: rest)) := by
  cases item with
  | cancelCurrentEnroll contextList =>
    cases contextList <;> exact shorter_found (by simp [perform,IdmWork.left]) (by simp [perform,IdmWork.left])
  | cancelOwn tokenId contextList ret =>
    cases contextList with
    | nil => exact shorter_found (by simp [perform,IdmWork.left]) (by simp [perform,IdmWork.left])
    | cons context contextList =>
      simp only [perform]
      split <;> exact shorter_found (by simp [IdmWork.left]) (by simp [IdmWork.left])
  | closeSession tokenId answer =>
    simp only [perform]
    split <;> exact shorter_looked rfl (by simp)
  | schedule context tokenId =>
    cases context with
    | none => exact shorter_looked rfl (by simp [perform,UserIdmService.schedule])
    | some context =>
      simp only [perform,UserIdmService.schedule]
      split <;> exact shorter_looked rfl (by simp)
  | _ => exact shorter_looked rfl (by simp [perform,IdmWork.left])

-- A call has the lock in a state that the service can come to.
structure Holding (call : Nat) (s : UserIdmService) : Prop where
  reached : ∃ h, Exclusive s h
  mutex : s.mutex = some call

def Proceeds (call : Nat) : IdmInput → Prop
  | .proceed other _ _ => other = call
  | _ => False

theorem Holding.next (holding : Holding call s) : ∃ item rest, s.calls call = item :: rest ∧ item ≠ lock := by
  obtain ⟨h,ex⟩ := holding.reached
  rcases ex.shape call with ⟨_,body,tail,split,good,_⟩ | ⟨none,_⟩
  · cases body with
    | nil => exact ⟨_,_,split,by simp⟩
    | cons first body =>
      refine ⟨_,_,split,?_⟩
      rintro rfl
      cases good _ List.mem_cons_self
  · exact absurd holding.mutex none

theorem Holding.stays (holding : Holding call s) {i : IdmInput} (mutex : (s.step i).1.mutex = s.mutex) :
    Holding call (s.step i).1 := by
  obtain ⟨h,ex⟩ := holding.reached
  exact ⟨⟨_,exclusive_step s h i ex⟩,mutex.trans holding.mutex⟩

theorem Holding.proceeds (holding : Holding call s) {i : IdmInput} (turn : Proceeds call i) :
    (s.step i).1.mutex = none ∨ Holding call (s.step i).1 ∧
      shorter (remains ((s.step i).1.calls call)) (remains (s.calls call)) := by
  cases i with
  | proceed other alive preempt =>
    obtain rfl : other = call := turn
    obtain ⟨item,rest,here,inside⟩ := holding.next
    have moved : (s.step (.proceed other alive preempt)).1 = _ :=
      congrArg Prod.fst (proceed_item here inside alive preempt)
    by_cases last : item = unlock
    · subst last
      rw [moved]
      exact .inl rfl
    · refine .inr ⟨holding.stays ?_,?_⟩
      · rw [moved]
        exact perform_mutex s alive preempt item last
      · rw [moved,here]
        dsimp only
        rw [Function.update_self]
        exact perform_shorter s alive preempt item rest
  | _ => cases turn

-- No other call takes the lock away, nor from the call what it has to do.
theorem Holding.waits (holding : Holding call s) {i : IdmInput} (other : ¬Proceeds call i) :
    Holding call (s.step i).1 ∧ (s.step i).1.calls call = s.calls call := by
  obtain ⟨h,ex⟩ := holding.reached
  cases i with
  | request caller request =>
    have busy : s.calls call ≠ [] := by
      obtain ⟨item,rest,here,_⟩ := holding.next
      simp [here]
    exact ⟨holding.stays rfl,Function.update_of_ne (Nat.ne_of_lt (ex.known busy)) _ _⟩
  | proceed mover alive preempt =>
    have apart : call ≠ mover := fun same => other same.symm
    cases here : s.calls mover with
    | nil =>
      have still : (s.step (.proceed mover alive preempt)).1 = s := by simp [step,UserIdmService.proceed,here]
      exact ⟨holding.stays (congrArg (·.mutex) still),congrArg (·.calls call) still⟩
    | cons item rest =>
      by_cases outside : item = lock
      · subst outside
        have still : (s.step (.proceed mover alive preempt)).1 = s := by
          simp [step,UserIdmService.proceed,here,holding.mutex]
        exact ⟨holding.stays (congrArg (·.mutex) still),congrArg (·.calls call) still⟩
      · have moved : (s.step (.proceed mover alive preempt)).1 = _ :=
          congrArg Prod.fst (proceed_item here outside alive preempt)
        have inside : item ≠ unlock := by
          rintro rfl
          exact apart (Option.some.inj (holding.mutex.symm.trans (ex.holds here rfl outside).1))
        refine ⟨holding.stays ?_,?_⟩
        · rw [moved]
          exact perform_mutex s alive preempt item inside
        · rw [moved]
          exact Function.update_of_ne apart _ _
  | handshake op =>
    have still : (s.step (.handshake op)).1.mutex = s.mutex ∧ (s.step (.handshake op)).1.calls = s.calls := by
      simp only [step]
      split <;> exact ⟨rfl,rfl⟩
    exact ⟨holding.stays still.1,congrFun still.2 call⟩
  | executorRegister | executorDelete | callback => exact ⟨holding.stays rfl,rfl⟩

-- Whatever else happens meanwhile, who proceeds again and again gives back the lock.
theorem Holding.released (holding : Holding call s) (later : Nat → IdmInput)
    (often : ∀ n, ∃ k, n ≤ k ∧ Proceeds call (later k)) :
    ∃ n, (machine.after s ((List.range n).map later)).mutex = none := by
  refine Mealy.goal_reached (m:=machine) (fun s => s.mutex = none) (fun s => remains (s.calls call)) shorter_wellFounded
    ?_ ?_ often holding
  · intro s i holding other
    obtain ⟨held,same⟩ := holding.waits other
    exact .inr ⟨held,congrArg remains same⟩
  · exact fun s i holding turn => holding.proceeds turn

end Release

def initial (making : Context → WidgetMaking) (callbacks : Callbacks) : UserIdmService where
  handshake := .initial making
  callbacks

theorem exclusive_initial (making : Context → WidgetMaking) (callbacks : Callbacks) :
    Exclusive (initial making callbacks) [] where
  valid := Handshake.initial_valid making
  shape := fun _ => .inr ⟨by simp [initial],.inl (by simp [Free,initial])⟩
  fresh := fun _ _ => rfl
  older := by simp [enrollments,initial,Handshake.initial,PoolState.initial,ContextPoolImpl.empty,ContextPoolImpl.contexts]
  ahead := fun _ => rfl
  session := rfl
  closes := History.each_nil _

-- Of all enrollments that are pooled each but the last has been stopped, or its stop
-- is on its way. A session is closed by a call whose own token opened the last of them.
-- Who holds the lock gives it back when it proceeds, in whatever order with all others.
theorem one_enrollment (making : Context → WidgetMaking) (callbacks : Callbacks) (inputs : List IdmInput) :
    let s := machine.after (initial making callbacks) inputs
    let h := machine.trace (initial making callbacks) inputs
    (∀ a ∈ s.enrollments, ∀ b ∈ s.enrollments, a.ref < b.ref →
      .handshake (.stop a) ∈ h ∨ s.handshake.StopPending a) ∧
      (∀ before call tokenId, before ++ [.effect call (.closeSession tokenId)] <+: h → lastOpened before = some tokenId) ∧
      (∀ before call effect tokenId, before ++ [.effect call effect] <+: h → effect.session = some tokenId →
        ∃ caller request, .request call caller request ∈ before ∧ caller.tokenId = tokenId) ∧
      ∀ call, s.mutex = some call → ∀ later : Nat → IdmInput, (∀ n, ∃ k, n ≤ k ∧ Proceeds call (later k)) →
        ∃ n, (machine.after s ((List.range n).map later)).mutex = none := by
  intro s h
  have ex : Exclusive s h := Mealy.history (P:=Exclusive) exclusive_step (exclusive_initial making callbacks) inputs
  have signed : Signed s h :=
    Mealy.history (P:=Signed) signed_step ⟨fun _ _ member => absurd member List.not_mem_nil,History.each_nil _⟩ inputs
  refine ⟨fun a inA b inB earlier => ?_,fun before call tokenId split => ex.closes before _ split call tokenId rfl,
    fun before call effect tokenId split own => signed.said before _ split call effect tokenId rfl own,
    fun call holds later often => Holding.released ⟨⟨h,ex⟩,holds⟩ later often⟩
  refine (Handshake.Told.pending ex.valid (ex.older a inA b inB earlier)).imp_left fun stopped => ?_
  obtain ⟨event,member,same⟩ := List.mem_filterMap.mp stopped
  cases event with
  | handshake event =>
    cases same
    exact member
  | _ => cases same

end UserIdmService
end UserAuth
