import Mathlib.Data.List.Basic
import UserAuth.Lib.Mealy

namespace UserAuth

structure IpcUserRecognitionResult where
  status : Int32 := 0
  userId : Int32 := 0
  userInfo : String := ""
  hasAuthTrustLevel : Bool := false
  authTrustLevel : UInt32 := 0
  deriving DecidableEq

namespace UserRecognitionStatus
def UNCERTAIN : Int32 := 0
def MATCH : Int32 := 2
end UserRecognitionStatus

-- A call of SetUserRecognitionResult that has changed the cache. Its snapshot of
-- the listeners comes in a section of its own, and the post after that.
structure RecognitionUpdate where
  result : IpcUserRecognitionResult
  snapshot : Option (List Nat) := none
  deriving DecidableEq

structure UserRecognitionStateManager where
  -- The remote objects that are registered.
  listenerMap : List Nat := []
  cachedResult : IpcUserRecognitionResult := {}
  updates : List RecognitionUpdate := []
  -- What the single thread is still to deliver, in order.
  tasks : List (List Nat × IpcUserRecognitionResult) := []

inductive RecognitionInput where
  | registerListener (listener : Option Nat) (deathRecipient : Bool)
  -- By the caller or by its death recipient.
  | unregisterListener (listener : Option Nat)
  | setUserRecognitionResult (result : IpcUserRecognitionResult)
  | takeSnapshot (update : Nat)
  | postEvent (update : Nat)
  | runTask

inductive RecognitionOutput where
  | posted (listener : Nat) (result : IpcUserRecognitionResult)
  | event (listener : Nat) (result : IpcUserRecognitionResult)
  deriving DecidableEq

namespace UserRecognitionStateManager

-- Under the lock: the new listener's catch-up event is posted before it is left.
def registerListener (s : UserRecognitionStateManager) (listener : Option Nat) (deathRecipient : Bool) :
    UserRecognitionStateManager × List RecognitionOutput :=
  match listener with
  | none => (s,[])
  | some listener =>
    if listener ∈ s.listenerMap then (s,[])
    else if !deathRecipient then (s,[])
    else ({s with listenerMap:=listener :: s.listenerMap,tasks:=s.tasks ++ [([listener],s.cachedResult)]},
      [.posted listener s.cachedResult])

def unregisterListener (s : UserRecognitionStateManager) : Option Nat → UserRecognitionStateManager
  | none => s
  | some listener => {s with listenerMap:=s.listenerMap.filter (· ≠ listener)}

def normalize (result : IpcUserRecognitionResult) : IpcUserRecognitionResult :=
  if result.status ≠ UserRecognitionStatus.MATCH then {result with hasAuthTrustLevel:=false,authTrustLevel:=0}
  else result

-- Up to the end of the section that compares and writes the cache.
def setUserRecognitionResult (s : UserRecognitionStateManager) (result : IpcUserRecognitionResult) :
    UserRecognitionStateManager :=
  if s.cachedResult = normalize result then s
  else {s with cachedResult:=normalize result,updates:=s.updates ++ [{result:=normalize result}]}

def takeSnapshot (s : UserRecognitionStateManager) (update : Nat) : UserRecognitionStateManager :=
  match s.updates[update]? with
  | some ⟨result,none⟩ => {s with updates:=s.updates.set update ⟨result,some s.listenerMap⟩}
  | _ => s

def postEvent (s : UserRecognitionStateManager) (update : Nat) :
    UserRecognitionStateManager × List RecognitionOutput :=
  match s.updates[update]? with
  | some ⟨result,some snapshot⟩ =>
    ({s with updates:=s.updates.eraseIdx update,tasks:=s.tasks ++ [(snapshot,result)]},
      snapshot.map (.posted · result))
  | _ => (s,[])

def runTask (s : UserRecognitionStateManager) : UserRecognitionStateManager × List RecognitionOutput :=
  match s.tasks with
  | [] => (s,[])
  | (listeners,result) :: rest => ({s with tasks:=rest},listeners.map (.event · result))

def step (s : UserRecognitionStateManager) : RecognitionInput → UserRecognitionStateManager × List RecognitionOutput
  | .registerListener listener deathRecipient => s.registerListener listener deathRecipient
  | .unregisterListener listener => (s.unregisterListener listener,[])
  | .setUserRecognitionResult result => (s.setUserRecognitionResult result,[])
  | .takeSnapshot update => (s.takeSnapshot update,[])
  | .postEvent update => s.postEvent update
  | .runTask => s.runTask

def machine : Mealy UserRecognitionStateManager RecognitionInput RecognitionOutput := ⟨step⟩

def postedTo (listener : Nat) : RecognitionOutput → Option IpcUserRecognitionResult
  | .posted l result => if l = listener then some result else none
  | .event _ _ => none

def eventTo (listener : Nat) : RecognitionOutput → Option IpcUserRecognitionResult
  | .event l result => if l = listener then some result else none
  | .posted _ _ => none

-- An update that will post the cached result to the listener, unless it is unregistered first.
def Expected (s : UserRecognitionStateManager) (listener : Nat) : Prop :=
  ∃ update ∈ s.updates, update.result = s.cachedResult ∧
    ∀ snapshot, update.snapshot = some snapshot → listener ∈ snapshot

instance (s : UserRecognitionStateManager) (listener : Nat) : Decidable (s.Expected listener) :=
  inferInstanceAs (Decidable
    (∃ update ∈ s.updates, _ ∧ ∀ snapshot, update.snapshot = some snapshot → listener ∈ snapshot))

def Drained (s : UserRecognitionStateManager) : Prop := s.updates = [] ∧ s.tasks = []

-- A post goes to registered listeners only, and to none that has had a newer
-- result without one more to come.
def InTime (s : UserRecognitionStateManager) : RecognitionInput → Prop
  | .postEvent update => ∀ result snapshot, s.updates[update]? = some ⟨result,some snapshot⟩ →
      ∀ listener ∈ snapshot, listener ∈ s.listenerMap ∧ (result = s.cachedResult ∨ s.Expected listener)
  | _ => True

def waiting (listener : Nat) (task : List Nat × IpcUserRecognitionResult) : List IpcUserRecognitionResult :=
  (task.1.filter (· = listener)).map fun _ => task.2

-- What was posted to a listener was delivered or is waiting, in the same order.
def Delivered (s : UserRecognitionStateManager) (h : List RecognitionOutput) : Prop := ∀ listener,
  h.filterMap (postedTo listener) = h.filterMap (eventTo listener) ++ s.tasks.flatMap (waiting listener)

-- The posts to a registered listener end with the cached result, or an update is still to post that.
def Caught (s : UserRecognitionStateManager) (h : List RecognitionOutput) : Prop := ∀ listener ∈ s.listenerMap,
  (h.filterMap (postedTo listener)).getLast? = some s.cachedResult ∨ s.Expected listener

section Steps
variable {s next : UserRecognitionStateManager} {h : List RecognitionOutput} {listener : Nat}

theorem posted_all (listener : Nat) (listeners : List Nat) (result : IpcUserRecognitionResult) :
    (listeners.map (RecognitionOutput.posted · result)).filterMap (postedTo listener) =
      waiting listener (listeners,result) := by
  induction listeners with
  | nil => rfl
  | cons first rest ih =>
    by_cases here : first = listener
    · simpa [postedTo,waiting,here] using ih
    · simpa [postedTo,waiting,here] using ih

theorem posted_unheard (listener : Nat) (listeners : List Nat) (result : IpcUserRecognitionResult) :
    (listeners.map (RecognitionOutput.posted · result)).filterMap (eventTo listener) = [] := by
  rw [List.filterMap_eq_nil_iff]
  intro output member
  obtain ⟨_,_,rfl⟩ := List.mem_map.mp member
  rfl

theorem event_all (listener : Nat) (listeners : List Nat) (result : IpcUserRecognitionResult) :
    (listeners.map (RecognitionOutput.event · result)).filterMap (eventTo listener) =
      waiting listener (listeners,result) := by
  induction listeners with
  | nil => rfl
  | cons first rest ih =>
    by_cases here : first = listener
    · simpa [eventTo,waiting,here] using ih
    · simpa [eventTo,waiting,here] using ih

theorem event_unposted (listener : Nat) (listeners : List Nat) (result : IpcUserRecognitionResult) :
    (listeners.map (RecognitionOutput.event · result)).filterMap (postedTo listener) = [] := by
  rw [List.filterMap_eq_nil_iff]
  intro output member
  obtain ⟨_,_,rfl⟩ := List.mem_map.mp member
  rfl

theorem waiting_last (member : listener ∈ listeners) (before : List IpcUserRecognitionResult) :
    (before ++ waiting listener (listeners,result)).getLast? = some result := by
  have some : waiting listener (listeners,result) ≠ [] := by
    simp [waiting,member]
  rw [List.getLast?_append_of_ne_nil _ some]
  rw [List.getLast?_eq_some_getLast some]
  have last := List.getLast_mem some
  obtain ⟨_,_,same⟩ := List.mem_map.mp last
  rw [← same]

theorem waiting_absent (absent : listener ∉ listeners) : waiting listener (listeners,result) = [] := by
  rw [waiting,List.filter_eq_nil_iff.mpr]
  · rfl
  · intro other member same
    exact absent (of_decide_eq_true same ▸ member)

-- A task joins the queue as its events are posted.
theorem post_delivered (delivered : Delivered s h) (tasks : next.tasks = s.tasks ++ [(listeners,result)]) :
    Delivered next (h ++ listeners.map (.posted · result)) := by
  intro listener
  rw [List.filterMap_append,List.filterMap_append,posted_all,posted_unheard,List.append_nil,delivered,tasks,
    List.flatMap_append,List.append_assoc]
  simp

theorem same_delivered (delivered : Delivered s h) (tasks : next.tasks = s.tasks) : Delivered next (h ++ []) := by
  intro listener
  rw [List.append_nil,tasks]
  exact delivered listener

theorem step_delivered (delivered : Delivered s h) (input : RecognitionInput) :
    Delivered (s.step input).1 (h ++ (s.step input).2) := by
  cases input with
  | registerListener listener deathRecipient =>
    cases listener with
    | none => exact same_delivered delivered rfl
    | some listener =>
      rw [step,registerListener]
      split
      · exact same_delivered delivered rfl
      · split
        · exact same_delivered delivered rfl
        · show Delivered _ (h ++ [listener].map (RecognitionOutput.posted · s.cachedResult))
          exact post_delivered delivered rfl
  | unregisterListener listener => cases listener <;> exact same_delivered delivered rfl
  | setUserRecognitionResult result =>
    rw [step,setUserRecognitionResult]
    split <;> exact same_delivered delivered rfl
  | takeSnapshot update =>
    rw [step,takeSnapshot]
    split <;> exact same_delivered delivered rfl
  | postEvent update =>
    rw [step,postEvent]
    split
    · exact post_delivered delivered rfl
    · exact same_delivered delivered rfl
  | runTask =>
    rw [step,runTask]
    split
    · exact same_delivered delivered rfl
    · rename_i listeners result rest waits
      intro listener
      rw [List.filterMap_append,List.filterMap_append,event_all,event_unposted,List.append_nil,delivered,waits,
        List.flatMap_cons,List.append_assoc]

theorem expected_of_subset (expected : s.Expected listener) (cached : next.cachedResult = s.cachedResult)
    (kept : ∀ update ∈ s.updates, update.result = s.cachedResult → update ∈ next.updates) :
    next.Expected listener := by
  obtain ⟨update,member,same,covers⟩ := expected
  exact ⟨update,kept update member same,same.trans cached.symm,covers⟩

theorem register_caught (caught : Caught s h) (listener : Option Nat) (deathRecipient : Bool) :
    Caught (s.registerListener listener deathRecipient).1 (h ++ (s.registerListener listener deathRecipient).2) := by
  unfold registerListener
  cases listener with
  | none => rwa [List.append_nil]
  | some listener =>
    dsimp only
    split
    · rwa [List.append_nil]
    · split
      · rwa [List.append_nil]
      · intro other registered
        have posted := posted_all other [listener] s.cachedResult
        rw [List.map_singleton] at posted
        rw [List.filterMap_append,posted]
        by_cases here : other = listener
        · exact .inl (waiting_last (here ▸ List.mem_singleton_self _) _)
        · rw [waiting_absent (fun member => here (List.mem_singleton.mp member)),List.append_nil]
          exact caught other ((List.mem_cons.mp registered).resolve_left here)

theorem unregister_caught (caught : Caught s h) (listener : Option Nat) : Caught (s.unregisterListener listener) h := by
  cases listener with
  | none => exact caught
  | some listener => exact fun other registered => caught other (List.mem_filter.mp registered).1

theorem set_caught (caught : Caught s h) (result : IpcUserRecognitionResult) :
    Caught (s.setUserRecognitionResult result) h := by
  unfold setUserRecognitionResult
  split
  · exact caught
  · exact fun listener _ => .inr ⟨_,List.mem_append_right _ List.mem_cons_self,rfl,nofun⟩

theorem snapshot_caught (caught : Caught s h) (update : Nat) : Caught (s.takeSnapshot update) h := by
  unfold takeSnapshot
  split
  · rename_i result found
    intro listener registered
    refine (caught listener registered).imp id fun expected => ?_
    obtain ⟨waits,member,same,covers⟩ := expected
    obtain ⟨position,here⟩ := List.mem_iff_getElem?.mp member
    by_cases taken : update = position
    · subst taken
      cases found.symm.trans here
      refine ⟨⟨result,some s.listenerMap⟩,?_,same,?_⟩
      · exact List.mem_set (List.getElem?_eq_some_iff.mp found).1 _
      · intro snapshot covered
        cases covered
        exact registered
    · refine ⟨waits,List.mem_iff_getElem?.mpr ⟨position,?_⟩,same,covers⟩
      rw [List.getElem?_set_ne taken]
      exact here
  · exact caught

theorem mem_eraseIdx_of_ne {updates : List RecognitionUpdate} (found : updates[position]? = some taken)
    (member : update ∈ updates) (other : update ≠ taken) : update ∈ updates.eraseIdx position := by
  obtain ⟨place,here⟩ := List.mem_iff_getElem?.mp member
  refine List.mem_eraseIdx_iff_getElem?.mpr ⟨place,?_,here⟩
  rintro rfl
  exact other (Option.some.inj (here.symm.trans found))

theorem post_caught (caught : Caught s h) (update : Nat) (inTime : s.InTime (.postEvent update)) :
    Caught (s.postEvent update).1 (h ++ (s.postEvent update).2) := by
  unfold postEvent
  split
  · rename_i result snapshot found
    intro listener registered
    rw [List.filterMap_append,posted_all]
    by_cases here : listener ∈ snapshot
    · rw [waiting_last here]
      by_cases newest : result = s.cachedResult
      · exact .inl (congrArg some newest)
      · have expected := (inTime result snapshot found listener here).2.resolve_left newest
        refine .inr (expected_of_subset expected rfl fun other member same => ?_)
        refine mem_eraseIdx_of_ne found member ?_
        rintro rfl
        exact newest same
    · rw [waiting_absent here,List.append_nil]
      refine (caught listener registered).imp id fun expected => ?_
      obtain ⟨waits,member,same,covers⟩ := expected
      refine ⟨waits,mem_eraseIdx_of_ne found member ?_,same,covers⟩
      rintro rfl
      exact here (covers snapshot rfl)
  · rwa [List.append_nil]

theorem runTask_caught (caught : Caught s h) : Caught s.runTask.1 (h ++ s.runTask.2) := by
  unfold runTask
  split
  · rwa [List.append_nil]
  · intro listener registered
    rw [List.filterMap_append,event_unposted,List.append_nil]
    exact caught listener registered

theorem step_caught (caught : Caught s h) (input : RecognitionInput) (inTime : s.InTime input) :
    Caught (s.step input).1 (h ++ (s.step input).2) := by
  cases input with
  | registerListener listener deathRecipient => exact register_caught caught listener deathRecipient
  | unregisterListener listener =>
    rw [step,List.append_nil]
    exact unregister_caught caught listener
  | setUserRecognitionResult result =>
    rw [step,List.append_nil]
    exact set_caught caught result
  | takeSnapshot update =>
    rw [step,List.append_nil]
    exact snapshot_caught caught update
  | postEvent update => exact post_caught caught update inTime
  | runTask => exact runTask_caught caught

theorem register_addressed (posted : .posted listener result ∈ (s.registerListener newcomer deathRecipient).2) :
    listener ∈ (s.registerListener newcomer deathRecipient).1.listenerMap := by
  cases newcomer with
  | none => cases posted
  | some newcomer =>
    unfold registerListener at posted ⊢
    dsimp only at posted ⊢
    split at posted
    · cases posted
    · rename_i unknown
      split at posted
      · cases posted
      · rename_i watched
        cases List.mem_singleton.mp posted
        rw [if_neg unknown,if_neg watched]
        exact List.mem_cons_self

theorem post_addressed (inTime : s.InTime (.postEvent update))
    (posted : .posted listener result ∈ (s.postEvent update).2) : listener ∈ (s.postEvent update).1.listenerMap := by
  unfold postEvent at posted ⊢
  split at posted
  · rename_i taken snapshot found
    obtain ⟨_,member,same⟩ := List.mem_map.mp posted
    cases same
    exact (inTime _ snapshot found listener member).1
  · cases posted

theorem runTask_posts (posted : .posted listener result ∈ s.runTask.2) : False := by
  unfold runTask at posted
  split at posted
  · cases posted
  · obtain ⟨_,_,same⟩ := List.mem_map.mp posted
    cases same

theorem step_addressed (input : RecognitionInput) (inTime : s.InTime input)
    (posted : .posted listener result ∈ (s.step input).2) : listener ∈ (s.step input).1.listenerMap := by
  cases input with
  | registerListener newcomer deathRecipient => exact register_addressed posted
  | postEvent update => exact post_addressed inTime posted
  | runTask => exact (runTask_posts posted).elim
  | unregisterListener => exact absurd posted List.not_mem_nil
  | setUserRecognitionResult => exact absurd posted List.not_mem_nil
  | takeSnapshot => exact absurd posted List.not_mem_nil

end Steps

-- Once everything is delivered each registered listener has had the cached
-- result last, and every post went to a listener registered then.
def Converges (inputs : List RecognitionInput) : Prop :=
  (Drained (machine.after {} inputs) → ∀ listener ∈ (machine.after {} inputs).listenerMap,
    ((machine.trace {} inputs).filterMap (eventTo listener)).getLast? = some (machine.after {} inputs).cachedResult) ∧
  ∀ before input rest, inputs = before ++ input :: rest → ∀ listener result,
    .posted listener result ∈ ((machine.after {} before).step input).2 →
      listener ∈ ((machine.after {} before).step input).1.listenerMap

theorem run_delivered (inputs : List RecognitionInput) :
    Delivered (machine.after {} inputs) (machine.trace {} inputs) :=
  Mealy.history (m:=machine) (P:=Delivered) (fun _ _ input delivered => step_delivered delivered input)
    (fun _ => rfl) inputs

theorem run_caught (inputs : List RecognitionInput) (met : machine.Meets InTime {} inputs) :
    Caught (machine.after {} inputs) (machine.trace {} inputs) := by
  have run := Mealy.guarded_history (m:=machine) (P:=Caught)
    (fun _ _ input caught inTime => step_caught caught input inTime) (s:={}) (h:=[]) nofun met
  rwa [List.nil_append] at run

-- With nothing left to deliver, what a listener had last is what was last posted to it.
theorem drained_last (inputs : List RecognitionInput) (drained : Drained (machine.after {} inputs)) (listener : Nat) :
    (machine.trace {} inputs).filterMap (eventTo listener) = (machine.trace {} inputs).filterMap (postedTo listener) := by
  have delivered := run_delivered inputs listener
  rw [drained.2,List.flatMap_nil,List.append_nil] at delivered
  exact delivered.symm

theorem met_converges (inputs : List RecognitionInput) (met : machine.Meets InTime {} inputs) : Converges inputs := by
  constructor
  · intro drained listener registered
    rw [drained_last inputs drained]
    refine (run_caught inputs met listener registered).resolve_right ?_
    rintro ⟨update,member,_⟩
    rw [drained.1] at member
    cases member
  · intro before input rest split listener result posted
    rw [split,Mealy.meets_append,Mealy.meets_cons] at met
    exact step_addressed input met.2.1 posted

-- A registered listener behind the cached result, with no update to bring it there.
structure Behind (s : UserRecognitionStateManager) (h : List RecognitionOutput) (listener : Nat) : Prop where
  registered : listener ∈ s.listenerMap
  older : (h.filterMap (postedTo listener)).getLast? ≠ some s.cachedResult
  unexpected : ¬s.Expected listener

-- What goes on by itself once nobody calls any more.
def Finishes : RecognitionInput → Prop
  | .takeSnapshot _ | .postEvent _ | .runTask => True
  | _ => False

section Finishing
variable {s : UserRecognitionStateManager} {h : List RecognitionOutput} {listener : Nat}

theorem snapshot_behind (behind : Behind s h listener) (update : Nat) : Behind (s.takeSnapshot update) h listener := by
  unfold takeSnapshot
  split
  · rename_i result found
    refine ⟨behind.registered,behind.older,?_⟩
    rintro ⟨waits,member,same,covers⟩
    obtain old | rfl := List.mem_or_eq_of_mem_set member
    · exact behind.unexpected ⟨waits,old,same,covers⟩
    · exact behind.unexpected ⟨⟨result,none⟩,List.mem_of_getElem? found,same,nofun⟩
  · exact behind

theorem post_behind (behind : Behind s h listener) (update : Nat) :
    Behind (s.postEvent update).1 (h ++ (s.postEvent update).2) listener := by
  unfold postEvent
  split
  · rename_i result snapshot found
    refine ⟨behind.registered,?_,?_⟩
    · rw [List.filterMap_append,posted_all]
      by_cases here : listener ∈ snapshot
      · rw [waiting_last here]
        intro newest
        refine behind.unexpected ⟨_,List.mem_of_getElem? found,Option.some.inj newest,?_⟩
        intro other same
        cases same
        exact here
      · rw [waiting_absent here,List.append_nil]
        exact behind.older
    · rintro ⟨waits,member,same,covers⟩
      exact behind.unexpected ⟨waits,List.mem_of_mem_eraseIdx member,same,covers⟩
  · rwa [List.append_nil]

theorem runTask_behind (behind : Behind s h listener) : Behind s.runTask.1 (h ++ s.runTask.2) listener := by
  unfold runTask
  split
  · rwa [List.append_nil]
  · refine ⟨behind.registered,?_,behind.unexpected⟩
    rw [List.filterMap_append,event_unposted,List.append_nil]
    exact behind.older

theorem step_behind (behind : Behind s h listener) (input : RecognitionInput) (finishes : Finishes input) :
    Behind (s.step input).1 (h ++ (s.step input).2) listener := by
  cases input with
  | takeSnapshot update =>
    rw [step,List.append_nil]
    exact snapshot_behind behind update
  | postEvent update => exact post_behind behind update
  | runTask => exact runTask_behind behind
  | registerListener => exact finishes.elim
  | unregisterListener => exact finishes.elim
  | setUserRecognitionResult => exact finishes.elim

-- A post of an older result to a listener that no update is to bring to the cached one.
theorem posted_behind (found : s.updates[update]? = some ⟨result,some snapshot⟩) (member : listener ∈ snapshot)
    (registered : listener ∈ s.listenerMap) (older : result ≠ s.cachedResult) (unexpected : ¬s.Expected listener) :
    Behind (s.postEvent update).1 (h ++ (s.postEvent update).2) listener := by
  rw [postEvent,found]
  refine ⟨registered,?_,?_⟩
  · rw [List.filterMap_append,posted_all,waiting_last member]
    exact fun same => older (Option.some.inj same)
  · rintro ⟨waits,pending,same,covers⟩
    exact unexpected ⟨waits,List.mem_of_mem_eraseIdx pending,same,covers⟩

theorem run_behind (behind : Behind s h listener) (inputs : List RecognitionInput)
    (finish : ∀ input ∈ inputs, Finishes input) :
    Behind (machine.after s inputs) (h ++ machine.trace s inputs) listener := by
  induction inputs generalizing s h with
  | nil => simpa using behind
  | cons input rest ih =>
    have moved := step_behind behind input (finish input List.mem_cons_self)
    rw [Mealy.trace_cons,← List.append_assoc]
    exact ih moved fun later member => finish later (List.mem_cons_of_mem _ member)

theorem tasks_run (s : UserRecognitionStateManager) (done : s.updates = []) :
    ∃ rest, (∀ input ∈ rest, Finishes input) ∧ Drained (machine.after s rest) := by
  generalize waits : s.tasks = tasks
  induction tasks generalizing s with
  | nil => exact ⟨[],nofun,done,waits⟩
  | cons task later ih =>
    obtain ⟨rest,finish,drained⟩ := ih {s with tasks:=later} done rfl
    have ran : machine.step s .runTask = ({s with tasks:=later},task.1.map (.event · task.2)) := by
      show s.runTask = _
      rw [runTask,waits]
    refine ⟨.runTask :: rest,?_,?_⟩
    · intro input member
      obtain rfl | member := List.mem_cons.mp member
      · trivial
      · exact finish input member
    · rw [Mealy.after_cons,ran]
      exact drained

-- The updates in progress post one after the other, and then the tasks run.
theorem finishing (s : UserRecognitionStateManager) :
    ∃ rest, (∀ input ∈ rest, Finishes input) ∧ Drained (machine.after s rest) := by
  generalize pending : s.updates = updates
  induction updates generalizing s with
  | nil => exact tasks_run s pending
  | cons update later ih =>
    have first : (s.takeSnapshot 0).updates[0]? = some ⟨update.result,some (update.snapshot.getD s.listenerMap)⟩ ∧
        (s.takeSnapshot 0).updates.eraseIdx 0 = later := by
      obtain ⟨result,snapshot⟩ := update
      cases snapshot with
      | none => simp [takeSnapshot,pending]
      | some snapshot => simp [takeSnapshot,pending]
    have posted : machine.step (s.takeSnapshot 0) (.postEvent 0) = (s.takeSnapshot 0).postEvent 0 := rfl
    obtain ⟨rest,finish,drained⟩ := ih ((s.takeSnapshot 0).postEvent 0).1 (by rw [postEvent,first.1]; exact first.2)
    refine ⟨.takeSnapshot 0 :: .postEvent 0 :: rest,?_,drained⟩
    intro input member
    obtain rfl | member := List.mem_cons.mp member
    · trivial
    · obtain rfl | member := List.mem_cons.mp member
      · trivial
      · exact finish input member

end Finishing

-- The condition is the exact one: a run cut short by a step that misses it can
-- be finished without another call so that it does not converge.
theorem late_post_diverges (inputs : List RecognitionInput) (input : RecognitionInput)
    (late : ¬InTime (machine.after {} inputs) input) :
    ∃ rest, (∀ input ∈ rest, Finishes input) ∧ ¬Converges (inputs ++ input :: rest) := by
  cases input with
  | postEvent update =>
    simp only [InTime,not_forall,not_and_or,not_or] at late
    obtain ⟨result,snapshot,found,listener,member,strayed⟩ := late
    have posted : (machine.after {} inputs).step (.postEvent update) = (machine.after {} inputs).postEvent update := rfl
    by_cases registered : listener ∈ (machine.after {} inputs).listenerMap
    · obtain ⟨older,unexpected⟩ := strayed.resolve_left (fun gone => gone registered)
      have behind := posted_behind (h:=machine.trace {} inputs) found member registered older unexpected
      obtain ⟨rest,finish,drained⟩ := finishing ((machine.after {} inputs).postEvent update).1
      refine ⟨rest,finish,fun converges => ?_⟩
      have run := run_behind behind rest finish
      have after : machine.after {} (inputs ++ .postEvent update :: rest) =
          machine.after ((machine.after {} inputs).postEvent update).1 rest := by
        rw [Mealy.after_append]
        rfl
      have trace : machine.trace {} (inputs ++ .postEvent update :: rest) =
          machine.trace {} inputs ++ ((machine.after {} inputs).postEvent update).2 ++
            machine.trace ((machine.after {} inputs).postEvent update).1 rest := by
        rw [Mealy.trace_append,List.append_assoc]
        rfl
      rw [← after] at drained
      have last := converges.1 drained listener (after ▸ run.registered)
      rw [drained_last _ drained,trace,after] at last
      exact run.older last
    · refine ⟨[],nofun,fun converges => ?_⟩
      have told := converges.2 inputs (.postEvent update) [] rfl listener result
      refine registered ?_
      rw [posted,postEvent,found] at told
      exact told (List.mem_map.mpr ⟨listener,member,rfl⟩)
  | registerListener => exact (late trivial).elim
  | unregisterListener => exact (late trivial).elim
  | setUserRecognitionResult => exact (late trivial).elim
  | takeSnapshot => exact (late trivial).elim
  | runTask => exact (late trivial).elim

-- Every run that meets the condition converges, and where its next step misses it
-- the run can go on without another call so that it does not.
theorem recognition_converges (inputs : List RecognitionInput) :
    (machine.Meets InTime {} inputs → Converges inputs) ∧
      ∀ input, ¬InTime (machine.after {} inputs) input →
        ∃ rest, (∀ later ∈ rest, Finishes later) ∧ ¬Converges (inputs ++ input :: rest) :=
  ⟨met_converges inputs,late_post_diverges inputs⟩

def matched (userId : Int32) : IpcUserRecognitionResult := {status:=UserRecognitionStatus.MATCH,userId:=userId}

-- Two updates: the one that wrote the cache first posts last.
def overtaken : List RecognitionInput :=
  [.registerListener (some 1) true,.setUserRecognitionResult (matched 100),.setUserRecognitionResult (matched 101),
    .takeSnapshot 1,.postEvent 1,.takeSnapshot 0,.postEvent 0,.runTask,.runTask,.runTask]

theorem overtaken_diverges : ¬∀ inputs, Converges inputs := by
  intro all
  have last := (all overtaken).1 ⟨rfl,rfl⟩ 1 (by decide)
  exact absurd last (by decide)

theorem one_update_converges : Converges [.registerListener (some 1) true,.setUserRecognitionResult (matched 100),
    .takeSnapshot 0,.postEvent 0,.runTask,.runTask] := by
  refine (recognition_converges _).1 ⟨trivial,trivial,trivial,?_,trivial,trivial,trivial⟩
  intro result snapshot found listener member
  cases found
  exact ⟨member,.inl rfl⟩

end UserRecognitionStateManager
end UserAuth
