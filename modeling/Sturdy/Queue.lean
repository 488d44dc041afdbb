import Sturdy.Errors
import Mathlib.Data.List.Nodup
import Mathlib.Logic.Function.Basic

namespace Sturdy

/-- The in-memory queue (`queue.InMemoryQueue`): for each queue name, the channels
registered by `Subscribe`, in registration order, and whether `Sync` was called. A channel
is the number of the `Subscribe` call that registered it. -/
structure InMemoryQueue where
  chans : String → Option (List Nat) := fun _ => none
  sync : Bool := false

/-- Where the goroutine `Publish` starts for one channel is: blocked on `ch <- m` until the
channel's reader takes the message, waiting for its `Ack` (with `Sync`), or done. -/
inductive SendState where
  | blocked
  | awaitingAck
  | done
  deriving DecidableEq, Repr

/-- Where a `Publish` call is: waiting for `chansGuard.RLock`; holding it while its
goroutines send the marshalled message, one per channel; or returned, with the read lock
released by its `defer`. -/
inductive PublishPhase where
  | waiting
  | holding (m : String) (sends : List (Nat × SendState))
  | returned (result : Except Err Unit)

namespace InMemoryQueue

/-- What `Subscribe` does under `chansGuard.Lock`: its channel is appended to the name's. -/
def subscribe (q : InMemoryQueue) (name : String) (channel : Nat) : InMemoryQueue :=
  { q with chans := Function.update q.chans name (some ((q.chans name).getD [] ++ [channel])) }

/-- What `Publish` does once it holds `chansGuard.RLock`: with no channel under the name it
returns nil; otherwise it starts one goroutine per channel, each of which marshals the
message and sends it. A marshalling failure ends every goroutine before its send, and
`wg.Wait` returns it. -/
def publish {α : Type} (marshal : α → Except Err String) (q : InMemoryQueue) (name : String)
    (msg : α) : PublishPhase :=
  match q.chans name with
  | none => .returned (.ok ())
  | some [] => .returned (.ok ())
  | some chans =>
    match marshal msg with
    | .error e => .returned (.error (e.wrap "failed to create message"))
    | .ok m => .holding m (chans.map (·, .blocked))

theorem publish_holding {α : Type} {marshal : α → Except Err String} {q : InMemoryQueue}
    {name : String} {msg : α} {m : String} {sends : List (Nat × SendState)}
    (started : q.publish marshal name msg = .holding m sends) :
    marshal msg = .ok m ∧ sends.map (·.1) = (q.chans name).getD [] := by
  unfold publish at started
  split at started
  · cases started
  · cases started
  · rename_i chans _ found
    split at started
    · cases started
    · cases started
      simp [found, List.map_map, Function.comp_def, *]

end InMemoryQueue

namespace PublishPhase

/-- The goroutine sending to channel `c` moves on from `src` to `dst`. -/
def advance (c : Nat) (src dst : SendState) (sends : List (Nat × SendState)) :
    List (Nat × SendState) :=
  sends.map fun s => if s = (c, src) then (c, dst) else s

/-- `wg.Wait` returns nil once every goroutine is done, and `Publish` returns. -/
def settle (m : String) (sends : List (Nat × SendState)) : PublishPhase :=
  if sends.all (·.2 == .done) then .returned (.ok ()) else .holding m sends

def isWaiting : PublishPhase → Bool
  | waiting => true
  | _ => false

def isHolding : PublishPhase → Bool
  | holding _ _ => true
  | _ => false

@[simp] theorem advance_channels (c : Nat) (src dst : SendState) (sends : List (Nat × SendState)) :
    (advance c src dst sends).map (·.1) = sends.map (·.1) := by
  simp only [advance, List.map_map]
  exact List.map_congr_left fun s _ => by by_cases same : s = (c, src) <;> simp [same]

/-- A send that is not the one moving stays where it is. -/
theorem mem_advance {c c' : Nat} {src dst st : SendState} {sends : List (Nat × SendState)}
    (member : (c', st) ∈ sends) (other : (c', st) ≠ (c, src)) : (c', st) ∈ advance c src dst sends :=
  List.mem_map.mpr ⟨_, member, if_neg other⟩

theorem settle_holding {m m' : String} {sends sends' : List (Nat × SendState)}
    (settled : settle m sends = .holding m' sends') : m' = m ∧ sends' = sends := by
  unfold settle at settled
  split at settled
  · cases settled
  · cases settled; exact ⟨rfl, rfl⟩

/-- A goroutine still blocked keeps `Publish` holding the read lock. -/
theorem settle_of_blocked {m : String} {c : Nat} {sends : List (Nat × SendState)}
    (blocked : (c, .blocked) ∈ sends) : settle m sends = .holding m sends := by
  have notDone : sends.all (·.2 == .done) = false :=
    List.all_eq_false.mpr ⟨(c, .blocked), blocked, by simp⟩
  simp [settle, notDone]

end PublishPhase

/-- A `Subscribe` call: its queue name, whether it has taken `chansGuard.Lock` and
registered its channel, and whether its context is live. Once the context is done the call
returns; its channel stays registered. -/
structure SubscribeCall where
  name : String
  registered : Bool := false
  live : Bool := true
  deriving DecidableEq, Repr

/-- A `Publish` call: its queue name, its message and where it is. -/
structure PublishCall (α : Type) where
  name : String
  msg : α
  phase : PublishPhase := .waiting

/-- The steps of the goroutines on a queue: a `Subscribe` call starts and asks for
`chansGuard.Lock`, and gets it; the context of a `Subscribe` call is cancelled; a `Publish`
call starts and asks for `chansGuard.RLock`, and gets it; the reader of a channel takes a
`Publish` call's message, and acknowledges it. Calls are numbered in the order they start. -/
inductive QueueEvent (α : Type) where
  | subscribe (name : String)
  | lock (call : Nat)
  | cancel (call : Nat)
  | publish (name : String) (msg : α)
  | rlock (call : Nat)
  | receive (call channel : Nat)
  | ack (call channel : Nat)

/-- The queue with every `Subscribe` and `Publish` call made on it. -/
structure QueueRun (α : Type) where
  queue : InMemoryQueue := {}
  subscribes : List SubscribeCall := []
  publishes : List (PublishCall α) := []

namespace QueueRun

variable {α : Type} (marshal : α → Except Err String)

/-- Some `Publish` holds `chansGuard.RLock`. -/
def readLocked (r : QueueRun α) : Bool := r.publishes.any (·.phase.isHolding)

/-- Some `Subscribe` waits for `chansGuard.Lock`; `sync.RWMutex` then blocks every new
`RLock` until that writer has had the lock. -/
def writerWaiting (r : QueueRun α) : Bool := r.subscribes.any (!·.registered)

/-- The reader of channel `c` moves `Publish` call `j`'s goroutine for it on from `src` to
`dst`: it takes the message, or acknowledges it. -/
def advanceSend (r : QueueRun α) (j c : Nat) (src dst : SendState) : Option (QueueRun α) :=
  match r.publishes[j]? with
  | some ⟨name, msg, .holding m sends⟩ =>
    if (c, src) ∈ sends then
      some { r with publishes := r.publishes.set j ⟨name, msg, .settle m (PublishPhase.advance c src dst sends)⟩ }
    else none
  | _ => none

/-- One step of the goroutine the event names, or `none` while that goroutine is blocked. -/
def step (r : QueueRun α) : QueueEvent α → Option (QueueRun α)
  | .subscribe name => some { r with subscribes := r.subscribes ++ [{ name }] }
  | .lock i =>
    match r.subscribes[i]? with
    | some c =>
      if c.registered || r.readLocked then none
      else some { r with queue := r.queue.subscribe c.name i
                         subscribes := r.subscribes.set i { c with registered := true } }
    | none => none
  | .cancel i =>
    match r.subscribes[i]? with
    | some c => some { r with subscribes := r.subscribes.set i { c with live := false } }
    | none => none
  | .publish name msg => some { r with publishes := r.publishes ++ [{ name, msg }] }
  | .rlock j =>
    match r.publishes[j]? with
    | some p =>
      if p.phase.isWaiting && !r.writerWaiting then
        some { r with
          publishes := r.publishes.set j { p with phase := r.queue.publish marshal p.name p.msg } }
      else none
    | none => none
  | .receive j c => r.advanceSend j c .blocked (if r.queue.sync then .awaitingAck else .done)
  | .ack j c => r.advanceSend j c .awaitingAck .done

/-- The events one after another; `none` if one of them names a blocked goroutine. -/
def run (r : QueueRun α) : List (QueueEvent α) → Option (QueueRun α)
  | [] => some r
  | e :: events => (step marshal r e).bind fun r' => r'.run events

/-- `Subscribe` call `i` has registered its channel under `name`. -/
def RegisteredAs (r : QueueRun α) (name : String) (i : Nat) : Prop :=
  ∃ c, r.subscribes[i]? = some c ∧ c.name = name ∧ c.registered = true

/-- `Publish` call `j` holds the read lock, with its send to channel `c` not yet taken. -/
def Blocked (r : QueueRun α) (j c : Nat) : Prop :=
  ∃ (p : PublishCall α) (m : String) (sends : List (Nat × SendState)),
    r.publishes[j]? = some p ∧ p.phase = .holding m sends ∧ (c, .blocked) ∈ sends

/-- `Publish` call `k` has taken the read lock (it may have returned since). -/
def LockTaken (r : QueueRun α) (k : Nat) : Prop :=
  ∃ p, r.publishes[k]? = some p ∧ p.phase.isWaiting = false

/-- What holds at every point of every run: the channels the queue holds under a name are
the `Subscribe` calls registered under it, once each, and a `Publish` that holds the read
lock sends the marshalled message to every one of them. -/
structure Inv (r : QueueRun α) : Prop where
  nodup : ∀ name, ((r.queue.chans name).getD []).Nodup
  chans : ∀ name i, i ∈ (r.queue.chans name).getD [] ↔ r.RegisteredAs name i
  holding : ∀ (j : Nat) (p : PublishCall α) (m : String) (sends : List (Nat × SendState)),
    r.publishes[j]? = some p → p.phase = .holding m sends →
    marshal p.msg = .ok m ∧ sends.map (·.1) = (r.queue.chans p.name).getD []

variable {marshal}

theorem readLocked_of_holding {r : QueueRun α} {j : Nat} {p : PublishCall α} {m : String}
    {sends : List (Nat × SendState)} (found : r.publishes[j]? = some p)
    (holding : p.phase = .holding m sends) : r.readLocked = true :=
  List.any_eq_true.mpr ⟨p, List.getElem?_mem found, by rw [holding]; rfl⟩

theorem Blocked.readLocked {r : QueueRun α} {j c : Nat} (blocked : r.Blocked j c) :
    r.readLocked = true :=
  let ⟨_, _, _, found, holding, _⟩ := blocked
  readLocked_of_holding found holding

/-- A call appended to a list of calls is found only at the end. -/
theorem getElem?_append_singleton_eq_some {β : Type} {l : List β} {x y : β} {i : Nat} :
    (l ++ [x])[i]? = some y ↔ l[i]? = some y ∨ i = l.length ∧ y = x := by
  rcases Nat.lt_or_ge i l.length with inside | outside
  · simp [List.getElem?_append_left inside, Nat.ne_of_lt inside]
  · rw [List.getElem?_append_right outside, List.getElem?_eq_none outside]
    rcases Nat.lt_or_ge l.length i with past | at_
    · simp [List.getElem?_eq_none (show [x].length ≤ i - l.length by simp; omega), Nat.ne_of_gt past]
    · obtain rfl : i = l.length := by omega
      simp [eq_comm]

theorem advanceSend_some {r r' : QueueRun α} {j c : Nat} {src dst : SendState}
    (moved : r.advanceSend j c src dst = some r') :
    ∃ name msg m sends, r.publishes[j]? = some ⟨name, msg, .holding m sends⟩ ∧ (c, src) ∈ sends ∧
      r'.queue = r.queue ∧ r'.subscribes = r.subscribes ∧
      r'.publishes = r.publishes.set j ⟨name, msg, .settle m (PublishPhase.advance c src dst sends)⟩ := by
  unfold advanceSend at moved
  split at moved
  · split at moved
    · cases moved; exact ⟨_, _, _, _, ‹_›, ‹_›, rfl, rfl, rfl⟩
    · cases moved
  · cases moved

section Inv

variable {r r' : QueueRun α}

theorem registeredAs_append {name n : String} {i : Nat} :
    ({ r with subscribes := r.subscribes ++ [{ name }] } : QueueRun α).RegisteredAs n i ↔
      r.RegisteredAs n i := by
  constructor
  · rintro ⟨c, found, named, registered⟩
    rcases getElem?_append_singleton_eq_some.mp found with old | ⟨-, rfl⟩
    · exact ⟨c, old, named, registered⟩
    · cases registered
  · rintro ⟨c, found, named, registered⟩
    exact ⟨c, getElem?_append_singleton_eq_some.mpr (.inl found), named, registered⟩

/-- Setting a call to one with the same name and registration keeps the registrations. -/
theorem registeredAs_set {i : Nat} {c c' : SubscribeCall} (found : r.subscribes[i]? = some c)
    (subscribes : r'.subscribes = r.subscribes.set i c') (name : c'.name = c.name)
    (registered : c'.registered = c.registered) {n : String} {k : Nat} :
    r'.RegisteredAs n k ↔ r.RegisteredAs n k := by
  simp only [RegisteredAs, subscribes, List.getElem?_set]
  by_cases same : i = k
  · subst same
    have inside := (List.getElem?_eq_some_iff.mp found).1
    simp only [if_true, inside, found, Option.some.injEq, exists_eq_left', name, registered]
  · simp [same]

/-- The call that takes the write lock is registered under its name. -/
theorem registeredAs_lock {i : Nat} {c : SubscribeCall} (found : r.subscribes[i]? = some c)
    (waiting : c.registered = false)
    (subscribes : r'.subscribes = r.subscribes.set i { c with registered := true }) {n : String} {k : Nat} :
    r'.RegisteredAs n k ↔ r.RegisteredAs n k ∨ k = i ∧ n = c.name := by
  simp only [RegisteredAs, subscribes, List.getElem?_set]
  by_cases same : i = k
  · subst same
    have inside := (List.getElem?_eq_some_iff.mp found).1
    simp only [if_true, inside, found, Option.some.injEq, exists_eq_left', waiting, and_true,
      Bool.false_eq_true, and_false, true_and, false_or]
    exact eq_comm
  · simp [same, Ne.symm same]

theorem Inv.init : ({} : QueueRun α).Inv marshal :=
  ⟨fun _ => List.nodup_nil, fun _ _ => by simp [RegisteredAs], fun _ _ _ _ found => by simp at found⟩

theorem Inv.of_publishes (inv : r.Inv marshal) (queue : r'.queue = r.queue)
    (registered : ∀ n k, r'.RegisteredAs n k ↔ r.RegisteredAs n k)
    (holding : ∀ (j : Nat) (p : PublishCall α) (m : String) (sends : List (Nat × SendState)),
      r'.publishes[j]? = some p → p.phase = .holding m sends →
      marshal p.msg = .ok m ∧ sends.map (·.1) = (r.queue.chans p.name).getD []) : r'.Inv marshal :=
  ⟨queue ▸ inv.nodup, fun n k => queue ▸ (inv.chans n k).trans (registered n k).symm,
    fun j p m sends found phase => queue ▸ holding j p m sends found phase⟩

/-- The registration under the write lock keeps the channels the registered calls, once each. -/
theorem Inv.lock (inv : r.Inv marshal) {i : Nat} {c : SubscribeCall} (found : r.subscribes[i]? = some c)
    (waiting : c.registered = false) (unlocked : r.readLocked = false) :
    ({ r with queue := r.queue.subscribe c.name i
              subscribes := r.subscribes.set i { c with registered := true } } : QueueRun α).Inv marshal := by
  have fresh : i ∉ (r.queue.chans c.name).getD [] := fun member => by
    obtain ⟨c', found', -, registered⟩ := (inv.chans c.name i).mp member
    rw [found] at found'
    cases found'
    simp [waiting] at registered
  refine ⟨fun n => ?_, fun n k => ?_, fun j p m sends found' phase => ?_⟩
  · by_cases same : n = c.name
    · subst same
      simpa [InMemoryQueue.subscribe, List.nodup_append, fresh] using inv.nodup _
    · simpa [InMemoryQueue.subscribe, same] using inv.nodup n
  · rw [registeredAs_lock found waiting rfl]
    by_cases same : n = c.name
    · subst same
      simp [InMemoryQueue.subscribe, inv.chans]
    · simp [InMemoryQueue.subscribe, same, inv.chans]
  · have := readLocked_of_holding found' phase
    simp only [readLocked] at this unlocked
    rw [this] at unlocked
    cases unlocked

theorem Inv.advanceSend (inv : r.Inv marshal) {j c : Nat} {src dst : SendState}
    (moved : r.advanceSend j c src dst = some r') : r'.Inv marshal := by
  obtain ⟨name, msg, m, sends, found, -, queue, subscribes, publishes⟩ := advanceSend_some moved
  refine inv.of_publishes queue (fun _ _ => by simp only [RegisteredAs, subscribes])
    fun k p' m' sends' found' phase => ?_
  rw [publishes, List.getElem?_set] at found'
  split at found'
  · split at found'
    · cases found'
      obtain ⟨rfl, rfl⟩ := PublishPhase.settle_holding phase
      rw [PublishPhase.advance_channels]
      exact inv.holding j ⟨name, msg, .holding _ sends⟩ _ sends found rfl
    · cases found'
  · exact inv.holding k p' m' sends' found' phase

theorem Inv.step (inv : r.Inv marshal) {e : QueueEvent α} (stepped : r.step marshal e = some r') :
    r'.Inv marshal := by
  cases e with
  | subscribe name =>
    cases stepped
    exact inv.of_publishes rfl (fun _ _ => registeredAs_append) inv.holding
  | lock i =>
    simp only [QueueRun.step] at stepped
    split at stepped
    · rename_i c found
      split at stepped
      · cases stepped
      · rename_i enabled
        cases stepped
        simp only [Bool.or_eq_true, not_or, Bool.not_eq_true] at enabled
        exact inv.lock found enabled.1 enabled.2
    · cases stepped
  | cancel i =>
    simp only [QueueRun.step] at stepped
    split at stepped
    · rename_i c found
      cases stepped
      exact inv.of_publishes rfl
        (fun _ _ => registeredAs_set found (show _ = r.subscribes.set i { c with live := false } from rfl) rfl rfl)
        inv.holding
    · cases stepped
  | publish name msg =>
    cases stepped
    refine inv.of_publishes rfl (fun _ _ => Iff.rfl) fun j p m sends found phase => ?_
    rcases getElem?_append_singleton_eq_some.mp found with old | ⟨-, rfl⟩
    · exact inv.holding j p m sends old phase
    · cases phase
  | rlock j =>
    simp only [QueueRun.step] at stepped
    split at stepped
    · rename_i p found
      split at stepped
      · cases stepped
        refine inv.of_publishes rfl (fun _ _ => Iff.rfl) fun k p' m sends found' phase => ?_
        rw [List.getElem?_set] at found'
        split at found'
        · split at found'
          · cases found'
            exact InMemoryQueue.publish_holding phase
          · cases found'
        · exact inv.holding k p' m sends found' phase
      · cases stepped
    · cases stepped
  | receive j c =>
    exact inv.advanceSend
      (show r.advanceSend j c .blocked (if r.queue.sync then .awaitingAck else .done) = some r' from stepped)
  | ack j c => exact inv.advanceSend stepped

theorem Inv.run (inv : r.Inv marshal) {events : List (QueueEvent α)} {r' : QueueRun α}
    (ran : r.run marshal events = some r') : r'.Inv marshal := by
  induction events generalizing r with
  | nil => cases ran; exact inv
  | cons e events ih =>
    obtain ⟨r₁, stepped, rest⟩ := Option.bind_eq_some.mp ran
    exact ih (inv.step stepped) rest

end Inv

section Blocked

variable {r r' : QueueRun α}

/-- Setting a call that has taken the read lock to a phase past it keeps which calls have
taken it. -/
theorem lockTaken_set {k : Nat} {p p' : PublishCall α} (found : r.publishes[k]? = some p)
    (taken : p.phase.isWaiting = false) (publishes : r'.publishes = r.publishes.set k p') {k' : Nat}
    (taken' : r'.LockTaken k') : r.LockTaken k' := by
  obtain ⟨q, found', waiting⟩ := taken'
  rw [publishes, List.getElem?_set] at found'
  split at found'
  · subst k; exact ⟨p, found, taken⟩
  · exact ⟨q, found', waiting⟩

theorem Blocked.set {j c k : Nat} {p' : PublishCall α} (blocked : r.Blocked j c)
    (publishes : r'.publishes = r.publishes.set k p')
    (kept : k = j → ∃ m sends, p'.phase = .holding m sends ∧ (c, .blocked) ∈ sends) : r'.Blocked j c := by
  obtain ⟨p, m, sends, found, phase, member⟩ := blocked
  by_cases same : k = j
  · subst same
    obtain ⟨m', sends', phase', member'⟩ := kept rfl
    exact ⟨p', m', sends', by simp [publishes, (List.getElem?_eq_some_iff.mp found).1], phase', member'⟩
  · exact ⟨p, m, sends, by rw [publishes, List.getElem?_set_ne same]; exact found, phase, member⟩

/-- A reader moving on any send but the blocked one keeps it blocked. -/
theorem Blocked.advanceSend {j c k c' : Nat} {src dst : SendState} (blocked : r.Blocked j c)
    (moved : r.advanceSend k c' src dst = some r') (other : ¬(k = j ∧ c' = c ∧ src = .blocked)) :
    r'.Blocked j c ∧ r'.queue = r.queue ∧
      (r.writerWaiting = true → r'.writerWaiting = true ∧ ∀ k, r'.LockTaken k → r.LockTaken k) := by
  obtain ⟨name, msg, m, sends, found, -, queue, subscribes, publishes⟩ := advanceSend_some moved
  refine ⟨blocked.set publishes fun same => ?_, queue, fun waiting =>
    ⟨by rw [writerWaiting, subscribes]; exact waiting, fun _ => lockTaken_set found rfl publishes⟩⟩
  subst same
  obtain ⟨p, m', sends', found', phase, member⟩ := blocked
  rw [found, Option.some.injEq] at found'
  subst found'
  cases phase
  have kept : (c, SendState.blocked) ∈ PublishPhase.advance c' src dst _ :=
    PublishPhase.mem_advance member fun same =>
      other ⟨rfl, (Prod.mk.inj same).1.symm, (Prod.mk.inj same).2.symm⟩
  exact ⟨_, _, PublishPhase.settle_of_blocked kept, kept⟩

end Blocked

end QueueRun

end Sturdy
