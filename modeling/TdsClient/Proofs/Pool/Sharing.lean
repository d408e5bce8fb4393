import Mathlib.Data.Fintype.Basic
import Mathlib.Logic.Function.Basic
import TdsClient.Proofs.Pool.Outcome

/-!
# Threads sharing a pool

Threads share a pool through its lock. What is done under the lock is one
step. A thread that has to wait gives up the lock and sleeps; it comes back
for the lock later, because a notification was meant for it or for no
reason, and other threads may get the lock first. Rolling back a connection
needs no lock, so returning one takes two steps, between which the other
threads go on. It is noted at the second one, with how it ended.

A connection is returned by the thread that took it, once. Which new
connection comes next, what has been done and raised so far, which
connections were in use when the pool was finalized, and how many
notifications went to threads that left without a connection is recorded
beside the pool; the pool itself knows none of it.

## Main definitions

* `SharedPool` — a pool, what its threads are about, and what has happened.
* `PoolMove`, `SharedPool.Allows`, `SharedPool.after` — the steps of threads.
* `SharedPool.Reachable` — what the steps can lead to.

## Main results

* `SharedPool.Reachable.returnsOwn` — a thread returns only what it holds.
* `SharedPool.Reachable.afterAll` — runs of given steps are such runs.
-/

namespace TdsClient

/-- What a thread is about: nothing at the pool, asleep until it is notified, awake again and
about to come back for the lock, notified or not, or returning a connection that is being rolled
back. -/
inductive PoolActivity
  | working
  | waiting
  | notified
  | stirred
  | returning (connection : Nat)
deriving DecidableEq

/-- Whether a thread may come for a connection. -/
def PoolActivity.mayEnter : PoolActivity → Bool
  | .working | .notified | .stirred => true
  | .waiting | .returning _ => false

/-- A connection in use, and the thread that took it. -/
structure Holding (T : Type) where
  thread : T
  connection : Nat
deriving DecidableEq

/-- A pool and the threads that share it: what each is about, which connections they hold, the
number of the next new connection, everything done and raised so far, the connections that were
in use when the pool was finalized, and how many notified threads left without a connection. -/
structure SharedPool (T : Type) where
  pool : Pool
  activity : T → PoolActivity := fun _ => .working
  held : List (Holding T) := []
  next : Nat := 0
  events : List PoolEvent := []
  raised : List PoolError := []
  writtenOff : List Nat := []
  wasted : Nat := 0

/-- A step of a thread: it comes for a connection at a time, where a new one may be refused; it
wakes though nobody notified it; it starts and ends the return of a connection, with how the
rollback went and the thread that is notified; or the pool is finalized. -/
inductive PoolMove (T : Type)
  | enter (thread : T) (now : Rat) (refusal : Option PoolError)
  | stir (thread : T)
  | beginReturn (thread : T) (connection : Nat)
  | endReturn (thread : T) (connection : Nat) (now : Rat) (rollback : Rollback) (woken : Option T)
  | finalize

namespace PoolMove

variable {T : Type}

/-- Whether rolling back, if it is part of the step, fails only for a reason of the database. -/
def isOrderly : PoolMove T → Bool
  | .endReturn _ _ _ (.failed _) _ => false
  | _ => true

/-- Whether the step is one of taking and returning connections. -/
def isUse : PoolMove T → Bool
  | .finalize => false
  | _ => true

theorem rollback_ne_failed {t : T} {c : Nat} {now : Rat} {rollback : Rollback} {u : Option T}
    (h : (endReturn t c now rollback u).isOrderly = true) (kind : String) :
    rollback ≠ .failed kind := by
  rintro rfl
  simp [isOrderly] at h

end PoolMove

namespace SharedPool

variable {T : Type}

/-! ## What the parts of a step do -/

/-- The connections that were closed. -/
def closedIn (events : List PoolEvent) : List Nat :=
  events.filterMap fun
    | .close c => some c
    | _ => none

@[simp]
theorem closedIn_nil : closedIn [] = [] := rfl

@[simp]
theorem closedIn_close (c : Nat) (events : List PoolEvent) :
    closedIn (.close c :: events) = c :: closedIn events := rfl

@[simp]
theorem closedIn_cons_of_ne {e : PoolEvent} (he : ∀ c, e ≠ .close c) (events : List PoolEvent) :
    closedIn (e :: events) = closedIn events := by
  cases e with
  | close c => exact absurd rfl (he c)
  | _ => rfl

@[simp]
theorem closedIn_append (events later : List PoolEvent) :
    closedIn (events ++ later) = closedIn events ++ closedIn later :=
  List.filterMap_append ..

@[simp]
theorem closedIn_closing (idle : List IdleConnection) :
    closedIn (Pool.closing idle) = idle.map (·.connection) := by
  induction idle with
  | nil => rfl
  | cons i rest ih => exact congrArg (i.connection :: ·) ih

/-- The idle connections. -/
def idle (s : SharedPool T) : List Nat := s.pool.idle.map (·.connection)

theorem length_idle (s : SharedPool T) : s.idle.length = s.pool.idle.length := List.length_map ..

/-- The connections in use, those being returned included. -/
def inUse (s : SharedPool T) : List Nat := s.held.map (·.connection)

/-- The closed connections. -/
def closed (s : SharedPool T) : List Nat := closedIn s.events

/-- The connections that were opened and not closed. -/
def openConnections (s : SharedPool T) : List Nat := (List.range s.next).filter (· ∉ s.closed)

/-- What connecting gives: the next new connection, unless it is refused. -/
def connecting (s : SharedPool T) : Option PoolError → Except PoolError Nat
  | none => .ok s.next
  | some e => .error e

theorem eq_next_of_connecting {s : SharedPool T} {refusal : Option PoolError} {c : Nat}
    (h : s.connecting refusal = .ok c) : c = s.next := by
  cases refusal with
  | none => exact (Except.ok.inj h).symm
  | some e => cases h

theorem refusal_of_connecting {s : SharedPool T} {refusal : Option PoolError} {e : PoolError}
    (h : s.connecting refusal = .error e) : refusal = some e := by
  cases refusal with
  | none => cases h
  | some e' => exact congrArg some (Except.error.inj h)

/-- After an operation of the pool: what it did is done, and what it raised is raised. -/
def settled {α : Type} (s : SharedPool T) (done : PoolOutcome α) : SharedPool T :=
  { s with
    pool := done.pool
    events := s.events ++ done.events
    raised := match done.result with
      | .ok _ => s.raised
      | .error e => s.raised ++ [e] }

variable [DecidableEq T]

/-- A thread is about something else. -/
def turned (s : SharedPool T) (t : T) (a : PoolActivity) : SharedPool T :=
  { s with activity := Function.update s.activity t a }

/-- A thread gives up the lock and sleeps. -/
def asleep (s : SharedPool T) (t : T) : SharedPool T :=
  { s.turned t .waiting with events := s.events ++ [.wait] }

/-- A thread that came for a connection leaves with it, or without one. -/
def handedTo (s : SharedPool T) (t : T) (done : PoolOutcome Nat) : SharedPool T :=
  let left := (s.settled done).turned t .working
  match done.result with
  | .ok c => { left with held := ⟨t, c⟩ :: s.held, next := max s.next (c + 1) }
  | .error _ => { left with wasted := if s.activity t = .notified then s.wasted + 1 else s.wasted }

/-- The thread that a notification is meant for, if any, is notified. -/
def woken (s : SharedPool T) (u : Option T) : SharedPool T :=
  { s with
    activity := match u with
      | some u => Function.update s.activity u .notified
      | none => s.activity }

/-- A thread holds a connection no more. -/
def takenFrom (s : SharedPool T) (t : T) (c : Nat) (done : PoolOutcome Unit) : SharedPool T :=
  { (s.settled done).turned t .working with held := s.held.erase ⟨t, c⟩ }

/-! ## Steps -/

/-- Whether a notification may wake a thread, or none: it goes to some thread that waits, if there
is one. -/
def MayWake (s : SharedPool T) (events : List PoolEvent) : Option T → Prop
  | some u => .notify ∈ events ∧ s.activity u = .waiting
  | none => .notify ∈ events → ∀ u, s.activity u ≠ .waiting

/-- Whether a step is possible. Connecting does not raise what the pool raises itself. -/
def Allows (s : SharedPool T) : PoolMove T → Prop
  | .enter t _ refusal => (s.activity t).mayEnter = true ∧ refusal ≠ some .overReleased
  | .stir t => s.activity t = .waiting
  | .beginReturn t c => s.activity t = .working ∧ ⟨t, c⟩ ∈ s.held
  | .endReturn t c now rollback u =>
    s.activity t = .returning c ∧ s.MayWake (s.pool.release now c rollback).events u
  | .finalize => True

/-- What a step leads to. -/
def after (s : SharedPool T) : PoolMove T → SharedPool T
  | .enter t now refusal =>
    if s.pool.mustWait then s.asleep t else s.handedTo t (s.pool.acquire now (s.connecting refusal))
  | .stir t => s.turned t .stirred
  | .beginReturn t c => s.turned t (.returning c)
  | .endReturn t c now rollback u => (s.takenFrom t c (s.pool.release now c rollback)).woken u
  | .finalize =>
    { s.settled s.pool.finalize with writtenOff := s.writtenOff ++ s.inUse }

/-- A new pool that no thread has used. -/
def fresh (settings : PoolSettings) : SharedPool T where
  pool := { settings }

/-- What a new pool can become by steps that are possible and admitted. -/
inductive Reachable (settings : PoolSettings) (Admits : SharedPool T → PoolMove T → Prop) :
    SharedPool T → Prop
  | new : Reachable settings Admits (fresh settings)
  | moved {s : SharedPool T} {m : PoolMove T} (hs : Reachable settings Admits s)
      (hallows : s.Allows m) (hadmits : Admits s m) : Reachable settings Admits (s.after m)

theorem after_enter_of_mustWait {s : SharedPool T} (h : s.pool.mustWait = true) (t : T) (now : Rat)
    (refusal : Option PoolError) : s.after (.enter t now refusal) = s.asleep t := by
  simp only [after, h, if_true]

theorem after_enter_of_not_mustWait {s : SharedPool T} (h : s.pool.mustWait = false) (t : T)
    (now : Rat) (refusal : Option PoolError) :
    s.after (.enter t now refusal) =
      s.handedTo t (s.pool.acquire now (s.connecting refusal)) := by
  simp only [after, h, Bool.false_eq_true, if_false]

/-! ## What the parts of a step leave -/

section

variable (s : SharedPool T) (t : T) (c : Nat)

@[simp]
theorem closed_asleep : (s.asleep t).closed = s.closed := by
  show closedIn (s.events ++ [.wait]) = s.closed
  simp [closed]

@[simp]
theorem activity_turned (a : PoolActivity) :
    (s.turned t a).activity = Function.update s.activity t a := rfl

@[simp]
theorem pool_handedTo (done : PoolOutcome Nat) : (s.handedTo t done).pool = done.pool := by
  unfold handedTo
  cases done.result <;> rfl

@[simp]
theorem events_handedTo (done : PoolOutcome Nat) :
    (s.handedTo t done).events = s.events ++ done.events := by
  unfold handedTo
  cases done.result <;> rfl

@[simp]
theorem activity_handedTo (done : PoolOutcome Nat) :
    (s.handedTo t done).activity = Function.update s.activity t .working := by
  unfold handedTo
  cases done.result <;> rfl

@[simp]
theorem writtenOff_handedTo (done : PoolOutcome Nat) :
    (s.handedTo t done).writtenOff = s.writtenOff := by
  unfold handedTo
  cases done.result <;> rfl

@[simp]
theorem idle_handedTo (done : PoolOutcome Nat) :
    (s.handedTo t done).idle = done.pool.idle.map (·.connection) := by
  rw [idle, pool_handedTo]

@[simp]
theorem closed_handedTo (done : PoolOutcome Nat) :
    (s.handedTo t done).closed = s.closed ++ closedIn done.events := by
  rw [closed, events_handedTo, closedIn_append, closed]

section

variable (events : List PoolEvent) (p : Pool) (e : PoolError)

@[simp]
theorem inUse_handedTo_ok : (s.handedTo t ⟨events, .ok c, p⟩).inUse = c :: s.inUse := rfl

@[simp]
theorem inUse_handedTo_error : (s.handedTo t ⟨events, .error e, p⟩).inUse = s.inUse := rfl

@[simp]
theorem next_handedTo_ok : (s.handedTo t ⟨events, .ok c, p⟩).next = max s.next (c + 1) := rfl

@[simp]
theorem next_handedTo_error : (s.handedTo t ⟨events, .error e, p⟩).next = s.next := rfl

@[simp]
theorem raised_handedTo_error :
    (s.handedTo t ⟨events, .error e, p⟩).raised = s.raised ++ [e] := rfl

end

theorem held_subset_handedTo (done : PoolOutcome Nat) : s.held ⊆ (s.handedTo t done).held := by
  unfold handedTo
  cases done.result with
  | ok c => exact List.subset_cons_self ..
  | error e => exact List.Subset.refl _

@[simp]
theorem pool_takenFrom (done : PoolOutcome Unit) : (s.takenFrom t c done).pool = done.pool := rfl

@[simp]
theorem writtenOff_takenFrom (done : PoolOutcome Unit) :
    (s.takenFrom t c done).writtenOff = s.writtenOff := rfl

@[simp]
theorem next_takenFrom (done : PoolOutcome Unit) : (s.takenFrom t c done).next = s.next := rfl

@[simp]
theorem activity_takenFrom (done : PoolOutcome Unit) :
    (s.takenFrom t c done).activity = Function.update s.activity t .working := rfl

@[simp]
theorem raised_takenFrom_error (events : List PoolEvent) (e : PoolError) (p : Pool) :
    (s.takenFrom t c ⟨events, .error e, p⟩).raised = s.raised ++ [e] := rfl

@[simp]
theorem idle_takenFrom (done : PoolOutcome Unit) :
    (s.takenFrom t c done).idle = done.pool.idle.map (·.connection) := rfl

@[simp]
theorem closed_takenFrom (done : PoolOutcome Unit) :
    (s.takenFrom t c done).closed = s.closed ++ closedIn done.events :=
  closedIn_append ..

/-- The connections in use are the one that is returned and those that stay. -/
theorem perm_inUse_takenFrom {s : SharedPool T} {t : T} {c : Nat} (hheld : ⟨t, c⟩ ∈ s.held)
    (done : PoolOutcome Unit) : s.inUse.Perm (c :: (s.takenFrom t c done).inUse) :=
  (List.perm_cons_erase hheld).map Holding.connection

end

/-! ## What every run keeps -/

section

variable {s : SharedPool T} {t u : T} {a : PoolActivity} {c : Nat}

omit [DecidableEq T] in
/-- A thread that returns a connection is not the one that its notification is meant for. -/
theorem ne_of_mayWake {events : List PoolEvent} (hreturning : s.activity t = .returning c)
    (hwakes : s.MayWake events (some u)) : u ≠ t := by
  rintro rfl
  have hasleep : s.activity u = .waiting := hwakes.2
  rw [hreturning] at hasleep
  cases hasleep

/-- A thread that is about anything but being notified was so before a notification. -/
theorem activity_of_woken {v : Option T} (h : (s.woken v).activity t = a) (ha : a ≠ .notified) :
    s.activity t = a := by
  cases v with
  | none => exact h
  | some u =>
    by_cases htu : t = u
    · subst htu
      have hnotified : PoolActivity.notified = a := by simpa [woken] using h
      exact absurd hnotified.symm ha
    · simpa [woken, Function.update_of_ne htu] using h

/-- A thread that is about anything but what a thread turned to is another one. -/
theorem activity_of_update {b : PoolActivity} (h : Function.update s.activity u b t = a)
    (hb : b ≠ a) : s.activity t = a ∧ t ≠ u := by
  by_cases htu : t = u
  · subst htu
    rw [Function.update_self] at h
    exact absurd h hb
  · rw [Function.update_of_ne htu] at h
    exact ⟨h, htu⟩

/-- A connection that is being returned is in use. -/
def ReturnsOwn (s : SharedPool T) : Prop := ∀ t c, s.activity t = .returning c → ⟨t, c⟩ ∈ s.held

theorem ReturnsOwn.after (hs : s.ReturnsOwn) {m : PoolMove T} (hallows : s.Allows m) :
    (s.after m).ReturnsOwn := by
  intro t c hreturning
  cases m with
  | enter u now refusal =>
    cases hwait : s.pool.mustWait with
    | true =>
      rw [after_enter_of_mustWait hwait] at hreturning ⊢
      exact hs t c (activity_of_update hreturning (by simp)).1
    | false =>
      rw [after_enter_of_not_mustWait hwait] at hreturning ⊢
      rw [activity_handedTo] at hreturning
      exact held_subset_handedTo _ _ _ (hs t c (activity_of_update hreturning (by simp)).1)
  | stir u => exact hs t c (activity_of_update hreturning (by simp)).1
  | beginReturn u d =>
    by_cases htu : t = u
    · subst htu
      have hcd : d = c := by simpa [SharedPool.after] using hreturning
      exact hcd ▸ hallows.2
    · have hold : s.activity t = .returning c := by
        simpa [SharedPool.after, Function.update_of_ne htu] using hreturning
      exact hs t c hold
  | endReturn u d now rollback v =>
    have hbefore := activity_of_woken hreturning (by simp)
    rw [activity_takenFrom] at hbefore
    obtain ⟨hold, htu⟩ := activity_of_update hbefore (by simp)
    have hother : (⟨t, c⟩ : Holding T) ≠ ⟨u, d⟩ := fun h => htu (congrArg Holding.thread h)
    exact (List.mem_erase_of_ne hother).2 (hs t c hold)
  | finalize => exact hs t c hreturning

/-- Steps leave the rules of the pool alone. -/
theorem settings_after (s : SharedPool T) (m : PoolMove T) :
    (s.after m).pool.settings = s.pool.settings := by
  cases m with
  | enter t now refusal =>
    cases hwait : s.pool.mustWait with
    | true => rw [after_enter_of_mustWait hwait]; rfl
    | false =>
      rw [after_enter_of_not_mustWait hwait, pool_handedTo]
      exact (s.pool.acquires_acquire ..).settings
  | stir t => rfl
  | beginReturn t c => rfl
  | endReturn t c now rollback u => exact (s.pool.releases_release ..).settings
  | finalize => exact s.pool.settings_closeAll _

/-- What was done before a step stays done. -/
theorem events_prefix_after (s : SharedPool T) (m : PoolMove T) :
    s.events <+: (s.after m).events := by
  cases m with
  | enter t now refusal =>
    cases hwait : s.pool.mustWait with
    | true => rw [after_enter_of_mustWait hwait]; exact List.prefix_append ..
    | false =>
      rw [after_enter_of_not_mustWait hwait, events_handedTo]
      exact List.prefix_append ..
  | stir t => exact List.prefix_rfl
  | beginReturn t c => exact List.prefix_rfl
  | endReturn t c now rollback u => exact List.prefix_append ..
  | finalize => exact List.prefix_append ..

theorem Reachable.settings {settings : PoolSettings} {Admits : SharedPool T → PoolMove T → Prop}
    (hs : Reachable settings Admits s) : s.pool.settings = settings := by
  induction hs with
  | new => rfl
  | @moved s m hs hallows hadmits ih => rw [settings_after, ih]

/-- In every run a connection that is being returned is in use. -/
theorem Reachable.returnsOwn {settings : PoolSettings} {Admits : SharedPool T → PoolMove T → Prop}
    (hs : Reachable settings Admits s) : s.ReturnsOwn := by
  induction hs with
  | new => simp [ReturnsOwn, fresh]
  | moved hs hallows hadmits ih => exact ih.after hallows

end

/-! ## Runs of given steps -/

/-- What steps in order lead to. -/
def afterAll (s : SharedPool T) (moves : List (PoolMove T)) : SharedPool T := moves.foldl after s

/-- Whether steps in order are possible and admitted. -/
def AllowsAll (Admits : SharedPool T → PoolMove T → Prop) (s : SharedPool T) :
    List (PoolMove T) → Prop
  | [] => True
  | m :: rest => (s.Allows m ∧ Admits s m) ∧ (s.after m).AllowsAll Admits rest

theorem Reachable.afterAll {settings : PoolSettings} {Admits : SharedPool T → PoolMove T → Prop}
    {s : SharedPool T} (hs : Reachable settings Admits s) {moves : List (PoolMove T)}
    (hmoves : s.AllowsAll Admits moves) : Reachable settings Admits (s.afterAll moves) := by
  induction moves generalizing s with
  | nil => exact hs
  | cons m rest ih =>
    obtain ⟨⟨hallows, hadmits⟩, hrest⟩ := hmoves
    exact ih (hs.moved hallows hadmits) hrest

/-- Each of the steps in order is possible and admitted when it comes. -/
theorem AllowsAll.at {Admits : SharedPool T → PoolMove T → Prop} {s : SharedPool T}
    {moves : List (PoolMove T)} (hmoves : s.AllowsAll Admits moves) {n : Nat}
    (hn : n < moves.length) :
    (s.afterAll (moves.take n)).Allows moves[n] ∧ Admits (s.afterAll (moves.take n)) moves[n] := by
  induction moves generalizing s n with
  | nil => simp at hn
  | cons m rest ih =>
    cases n with
    | zero => exact hmoves.1
    | succ n => exact ih hmoves.2 (by simpa using hn)

/-- What was done before a run stays done. -/
theorem events_prefix_afterAll (s : SharedPool T) (moves : List (PoolMove T)) :
    s.events <+: (s.afterAll moves).events := by
  induction moves generalizing s with
  | nil => exact List.prefix_rfl
  | cons m rest ih => exact (s.events_prefix_after m).trans (ih (s.after m))

instance [Fintype T] (s : SharedPool T) (events : List PoolEvent) :
    (woken : Option T) → Decidable (s.MayWake events woken)
  | some _ => inferInstanceAs (Decidable (_ ∧ _))
  | none => inferInstanceAs (Decidable (_ → ∀ u, s.activity u ≠ .waiting))

instance [Fintype T] (s : SharedPool T) : (m : PoolMove T) → Decidable (s.Allows m)
  | .enter .. => inferInstanceAs (Decidable (_ ∧ _))
  | .stir .. => inferInstanceAs (Decidable (_ = _))
  | .beginReturn .. => inferInstanceAs (Decidable (_ ∧ _))
  | .endReturn .. => inferInstanceAs (Decidable (_ ∧ _))
  | .finalize => .isTrue trivial

instance decidableAllowsAll [Fintype T] (Admits : SharedPool T → PoolMove T → Prop)
    [∀ s m, Decidable (Admits s m)] :
    (s : SharedPool T) → (moves : List (PoolMove T)) → Decidable (s.AllowsAll Admits moves)
  | _, [] => .isTrue trivial
  | s, m :: rest =>
    let _ := decidableAllowsAll Admits (s.after m) rest
    inferInstanceAs (Decidable ((_ ∧ _) ∧ _))

end SharedPool

end TdsClient
