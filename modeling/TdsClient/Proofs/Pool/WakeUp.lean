import Mathlib.Algebra.BigOperators.Group.Finset.Piecewise
import TdsClient.Proofs.Pool.Ownership

/-!
# Waking the threads that wait for a pool

A thread that waits for a connection relies on being notified when there is
one for it. Each return of a connection makes room for one thread and
notifies one, and a thread that takes a connection uses the room it was
notified of or that of another. So while some thread waits, there is room
for no more threads than were notified and have not come back yet.

There is one way to lose a notification: the thread it was meant for has to
connect, connecting is refused, and the thread leaves without a connection
and without notifying another. How often that has happened is all that the
room may exceed the notified threads by. Where it does not happen, no thread
sleeps for ever while there is room, as long as notified threads come back.

## Main definitions

* `SharedPool.count`, `SharedPool.room` — how many threads are about
  something, and how many the pool has room for.
* `SharedPool.Run` — the endless runs of a pool.
* `SharedPool.effort` — what the threads that wait have before them, which
  no step adds to while there is room.

## Main results

* `SharedPool.Reachable.room_le` — room is accounted for while threads wait.
* `SharedPool.wakeups_arrive` — that, and that no thread sleeps for ever
  while there is room, unless notifications are lost.
-/

namespace TdsClient.SharedPool

open Finset

variable {T : Type}

/-! ## Counting threads -/

/-- How many more threads could have a connection. -/
def room (s : SharedPool T) (maxSize : Int) : Int :=
  s.pool.idle.length + (maxSize - s.pool.opened)

/-- A pool that has to wait has no room. -/
theorem room_of_mustWait {s : SharedPool T} {maxSize : Int}
    (hsize : s.pool.settings.maxSize = some maxSize)
    (hwait : s.pool.mustWait = true) : s.room maxSize ≤ 0 := by
  obtain ⟨hidle, hfull⟩ := full_of_mustWait hsize hwait
  rw [room, hidle, List.length_nil]
  omega

variable [Fintype T]

/-- How many threads are about something. -/
def count (s : SharedPool T) (a : PoolActivity) : Nat := #{t | s.activity t = a}

theorem count_congr {s s' : SharedPool T} (h : s'.activity = s.activity) (a : PoolActivity) :
    s'.count a = s.count a := by
  simp only [count, h]

/-- Threads about something are there if they are counted. -/
theorem exists_of_count_pos {s : SharedPool T} {a : PoolActivity} (h : 0 < s.count a) :
    ∃ t, s.activity t = a := by
  obtain ⟨t, ht⟩ := card_pos.1 h
  exact ⟨t, (mem_filter.1 ht).2⟩

variable [DecidableEq T]

/-- What threads are about adds up anew if one thread turns to something else. -/
theorem sum_turned (f : PoolActivity → Nat) (s : SharedPool T) (t : T) (a : PoolActivity) :
    ∑ u, f ((s.turned t a).activity u) + f (s.activity t) = ∑ u, f (s.activity u) + f a := by
  have hothers : ∀ u ∈ univ.erase t, f ((s.turned t a).activity u) = f (s.activity u) := by
    intro u hu
    rw [activity_turned, Function.update_of_ne (ne_of_mem_erase hu)]
  rw [← add_sum_erase univ _ (mem_univ t), ← add_sum_erase univ _ (mem_univ t),
    sum_congr rfl hothers, activity_turned, Function.update_self]
  omega

/-- Of the threads about something, one comes and one goes if one thread turns to something else. -/
theorem count_turned (s : SharedPool T) (t : T) (a b : PoolActivity) :
    (s.turned t a).count b + (if s.activity t = b then 1 else 0) =
      s.count b + (if a = b then 1 else 0) := by
  simpa only [count, card_filter] using sum_turned (fun c => if c = b then 1 else 0) s t a

/-- A notification is one for each thread it is meant for. -/
theorem count_woken (s : SharedPool T) (u : T) (b : PoolActivity) :
    (s.woken (some u)).count b + (if s.activity u = b then 1 else 0) =
      s.count b + (if PoolActivity.notified = b then 1 else 0) :=
  s.count_turned u .notified b

/-! ## Steps -/

/-- As long as a thread waits, there is room for no more threads than were notified and have not
come back, except that notifications were lost. -/
def IsAlert (maxSize : Int) (s : SharedPool T) : Prop :=
  ∀ t, s.activity t = .waiting → s.room maxSize ≤ s.count .notified + s.wasted

variable {s : SharedPool T} {maxSize : Int}

omit [Fintype T] in
/-- A thread that came for a connection leaves room for one thread less, or leaves without one.
Then a notification is lost if it had one. -/
theorem room_handedTo (maxSize : Int) (t : T) {now : Rat} {connected : Except PoolError Nat}
    {done : PoolOutcome Nat} (hdone : Pool.Acquires s.pool now connected done) :
    (s.handedTo t done).room maxSize + s.wasted + (if s.activity t = .notified then 1 else 0) ≤
      s.room maxSize + (s.handedTo t done).wasted := by
  cases hdone with
  | @reused expired rest i opened hidle hexpired hfresh hopened =>
    have hlength : s.pool.idle.length = expired.length + (rest.length + 1) := by simp [hidle]
    have hwasted : (s.handedTo t ⟨Pool.closing expired, .ok i.connection,
      { s.pool with idle := rest, opened }⟩).wasted = s.wasted := rfl
    simp only [room, pool_handedTo, hwasted]
    split <;> omega
  | @connected opened c hexpired hopened hc =>
    have hwasted : (s.handedTo t ⟨Pool.closing s.pool.idle ++ [.connect], .ok c,
      { s.pool with idle := [], opened := opened + 1 }⟩).wasted = s.wasted := rfl
    simp only [room, pool_handedTo, hwasted, List.length_nil]
    split <;> omega
  | @refused opened e hexpired hopened he =>
    have hwasted : (s.handedTo t ⟨Pool.closing s.pool.idle ++ [.connect], .error e,
      { s.pool with idle := [], opened }⟩).wasted =
        if s.activity t = .notified then s.wasted + 1 else s.wasted := rfl
    simp only [room, pool_handedTo, hwasted, List.length_nil]
    split <;> omega
  | @overReleased expired rest i hidle hexpired hi hopened =>
    have hlength : s.pool.idle.length = expired.length + (rest.length + 1) := by simp [hidle]
    have hwasted : (s.handedTo t ⟨Pool.closing expired, .error .overReleased,
      { s.pool with idle := rest, opened := 0 }⟩).wasted =
        if s.activity t = .notified then s.wasted + 1 else s.wasted := rfl
    simp only [room, pool_handedTo, hwasted]
    split <;> omega

omit [Fintype T] in
/-- A connection that comes back makes room for one thread if a notification is sent. -/
theorem room_takenFrom (maxSize : Int) (t : T) {c : Nat} {now : Rat} {rollback : Rollback}
    {done : PoolOutcome Unit} (hdone : Pool.Releases s.pool now c rollback done) :
    (s.takenFrom t c done).room maxSize ≤
      s.room maxSize + (if .notify ∈ done.events then 1 else 0) := by
  cases hdone with
  | kept hrollback hroom => simp [room]; omega
  | closed hrollback hopened => simp [room]; omega
  | overReleased hrollback hopened => simp [room]
  | failed hrollback => simp [room]

/-- A thread that came for a connection did not use up a notification for nothing. -/
theorem IsAlert.handedTo (h : s.IsAlert maxSize) (t : T) {now : Rat}
    {connected : Except PoolError Nat} {done : PoolOutcome Nat}
    (hdone : Pool.Acquires s.pool now connected done) : (s.handedTo t done).IsAlert maxSize := by
  intro u hu
  rw [activity_handedTo] at hu
  have hbefore := h u (activity_of_update hu (by simp)).1
  have hroom := room_handedTo maxSize t hdone
  have hcount := s.count_turned t .working .notified
  rw [← count_congr (activity_handedTo s t done)] at hcount
  simp only [reduceCtorEq, if_false] at hcount
  by_cases hnotified : s.activity t = .notified
  · -- one notified thread less, and the room that it used or the notification that it lost
    simp only [hnotified, if_true] at hroom hcount
    omega
  · simp only [hnotified, if_false] at hroom hcount
    omega

/-- A thread that waits is not needed to use the room there is. -/
theorem IsAlert.asleep (hsize : s.pool.settings.maxSize = some maxSize)
    (hwait : s.pool.mustWait = true) (t : T) : (s.asleep t).IsAlert maxSize := by
  intro u _
  have hroom : (s.asleep t).room maxSize ≤ 0 := room_of_mustWait hsize hwait
  omega

/-- A connection that comes back while a thread waits has a thread notified. -/
theorem IsAlert.returned (h : s.IsAlert maxSize) {t : T} {c : Nat} {now : Rat}
    {rollback : Rollback} {done : PoolOutcome Unit} {v : Option T}
    (hreturning : s.activity t = .returning c) (hwakes : s.MayWake done.events v)
    (hdone : Pool.Releases s.pool now c rollback done) :
    ((s.takenFrom t c done).woken v).IsAlert maxSize := by
  intro u hu
  have hwaiting : s.activity u = .waiting := by
    have htaken := activity_of_woken hu (by simp)
    rw [activity_takenFrom] at htaken
    exact (activity_of_update htaken (by simp)).1
  have hbefore := h u hwaiting
  have hroom := room_takenFrom maxSize t hdone
  have hsame : ((s.takenFrom t c done).woken v).room maxSize =
    (s.takenFrom t c done).room maxSize := rfl
  have hwasted : ((s.takenFrom t c done).woken v).wasted = s.wasted := rfl
  have hcount := s.count_turned t .working .notified
  rw [← count_congr (activity_takenFrom s t c done), hreturning] at hcount
  simp only [reduceCtorEq, if_false] at hcount
  cases v with
  | none =>
    -- a thread waits, so that a notification would have found one
    have hquiet : .notify ∉ done.events := fun hnotify => hwakes hnotify u hwaiting
    have hsilent : ((s.takenFrom t c done).woken none).count .notified =
      (s.takenFrom t c done).count .notified := rfl
    simp only [hquiet, if_false] at hroom
    omega
  | some w =>
    have hother : (s.takenFrom t c done).activity w ≠ .notified := by
      rw [activity_takenFrom, Function.update_of_ne (ne_of_mayWake hreturning hwakes), hwakes.2]
      simp
    have hwoken := (s.takenFrom t c done).count_woken w .notified
    simp only [hother, if_false, if_true] at hwoken
    simp only [hwakes.1, if_true] at hroom
    omega

/-- A step of taking or returning a connection loses no notification that is not counted as
lost. -/
theorem IsAlert.after (h : s.IsAlert maxSize) (hsize : s.pool.settings.maxSize = some maxSize)
    {m : PoolMove T} (hallows : s.Allows m) (huse : m.isUse = true) :
    (s.after m).IsAlert maxSize := by
  cases m with
  | enter t now refusal =>
    cases hwait : s.pool.mustWait with
    | true =>
      rw [after_enter_of_mustWait hwait]
      exact IsAlert.asleep hsize hwait t
    | false =>
      rw [after_enter_of_not_mustWait hwait]
      exact h.handedTo t (s.pool.acquires_acquire ..)
  | stir t =>
    intro u hu
    have hbefore := h u (activity_of_update hu (by simp)).1
    have hcount := s.count_turned t .stirred .notified
    rw [show s.activity t = .waiting from hallows] at hcount
    simp only [reduceCtorEq, if_false] at hcount
    show s.room maxSize ≤ (s.turned t .stirred).count .notified + s.wasted
    omega
  | beginReturn t c =>
    intro u hu
    have hbefore := h u (activity_of_update hu (by simp)).1
    have hcount := s.count_turned t (.returning c) .notified
    rw [hallows.1] at hcount
    simp only [reduceCtorEq, if_false] at hcount
    show s.room maxSize ≤ (s.turned t (.returning c)).count .notified + s.wasted
    omega
  | endReturn t c now rollback v =>
    exact h.returned hallows.1 hallows.2 (s.pool.releases_release now c rollback)
  | finalize => exact absurd huse (by simp [PoolMove.isUse])

/-- In every run of taking and returning connections, there is room for no more threads than were
notified and have not come back while some thread waits, except for lost notifications. -/
theorem Reachable.room_le {settings : PoolSettings} (hsize : settings.maxSize = some maxSize)
    (hs : Reachable settings IsOrderlyUse s) : s.IsAlert maxSize := by
  induction hs with
  | new => simp [IsAlert, fresh]
  | @moved s m hs hallows horderly ih =>
    exact ih.after (by rw [hs.settings, hsize]) hallows horderly.2

/-! ## Endless runs -/

/-- The steps before a thread that waits has come back: it is notified, and comes back. -/
def stepsBack : PoolActivity → Nat
  | .waiting => 2
  | .notified => 1
  | .working | .stirred | .returning _ => 0

/-- What all threads that wait have before them. -/
def effort (s : SharedPool T) : Nat := ∑ t, stepsBack (s.activity t)

omit [DecidableEq T] in
theorem effort_congr {s s' : SharedPool T} (h : s'.activity = s.activity) :
    s'.effort = s.effort := by
  simp only [effort, h]

theorem effort_turned (s : SharedPool T) (t : T) (a : PoolActivity) :
    (s.turned t a).effort + stepsBack (s.activity t) = s.effort + stepsBack a :=
  sum_turned stepsBack s t a

/-- Nothing is added to the effort, and whoever was notified is so still unless less is left. -/
def Nears (s s' : SharedPool T) : Prop :=
  s'.effort ≤ s.effort ∧
    ∀ u, s.activity u = .notified → s'.activity u = .notified ∨ s'.effort < s.effort

omit [DecidableEq T] in
theorem Nears.trans {s s' s'' : SharedPool T} (h : Nears s s') (h' : Nears s' s'') :
    Nears s s'' := by
  refine ⟨h'.1.trans h.1, ?_⟩
  intro u hu
  have hle := h.1
  have hle' := h'.1
  rcases h.2 u hu with hnotified | hless
  · rcases h'.2 u hnotified with hstill | hless
    · exact .inl hstill
    · exact .inr (by omega)
  · exact .inr (by omega)

/-- A thread that turns to something with no more before it takes from the effort, if it was
notified. -/
theorem nears_turned {t : T} {a : PoolActivity} {s' : SharedPool T}
    (hactivity : s'.activity = Function.update s.activity t a)
    (ha : stepsBack a ≤ stepsBack (s.activity t))
    (hless : s.activity t = .notified → stepsBack a = 0) : Nears s s' := by
  have heffort := s.effort_turned t a
  have hsame : s'.effort = (s.turned t a).effort := effort_congr hactivity
  rw [← hsame] at heffort
  refine ⟨by omega, ?_⟩
  intro u hu
  by_cases hut : u = t
  · subst hut
    have hzero := hless hu
    rw [hu, hzero, show stepsBack .notified = 1 from rfl] at heffort
    exact .inr (by omega)
  · rw [hactivity, Function.update_of_ne hut]
    exact .inl hu

/-- While the pool has room, no step adds to what the threads that wait have before them. -/
theorem nears_after {m : PoolMove T} (hallows : s.Allows m) (huse : m.isUse = true)
    (hroom : s.pool.mustWait = false) : Nears s (s.after m) := by
  cases m with
  | enter t now refusal =>
    rw [after_enter_of_not_mustWait hroom]
    exact nears_turned (activity_handedTo ..) (Nat.zero_le _) fun _ => rfl
  | stir t => exact nears_turned rfl (Nat.zero_le _) fun _ => rfl
  | beginReturn t c => exact nears_turned rfl (Nat.zero_le _) fun _ => rfl
  | endReturn t c now rollback v =>
    have htaken : Nears s (s.takenFrom t c (s.pool.release now c rollback)) :=
      nears_turned (activity_takenFrom ..) (Nat.zero_le _) fun _ => rfl
    cases v with
    | none => exact htaken
    | some w =>
      have hw : (s.takenFrom t c (s.pool.release now c rollback)).activity w = .waiting := by
        rw [activity_takenFrom, Function.update_of_ne (ne_of_mayWake hallows.1 hallows.2)]
        exact hallows.2.2
      refine htaken.trans (nears_turned rfl ?_ ?_)
      · rw [hw]
        decide
      · rw [hw]
        simp
  | finalize => exact absurd huse (by simp [PoolMove.isUse])

/-- An endless run of taking and returning connections, in which nothing may happen at times. -/
structure Run (settings : PoolSettings) (T : Type) [DecidableEq T] where
  state : Nat → SharedPool T
  start : state 0 = fresh settings
  step : ∀ n, state (n + 1) = state n ∨
    ∃ m, (state n).Allows m ∧ (state n).IsOrderlyUse m ∧ state (n + 1) = (state n).after m

namespace Run

variable {settings : PoolSettings}

/-- Whether every thread that was notified comes back at some time. -/
def IsFair (r : Run settings T) : Prop :=
  ∀ n t, (r.state n).activity t = .notified → ∃ k, (r.state (n + k)).activity t ≠ .notified

omit [Fintype T] in
theorem reachable (r : Run settings T) (n : Nat) : Reachable settings IsOrderlyUse (r.state n) := by
  induction n with
  | zero =>
    rw [r.start]
    exact .new
  | succ n ih =>
    rcases r.step n with hsame | ⟨m, hallows, horderly, hafter⟩
    · rw [hsame]
      exact ih
    · rw [hafter]
      exact ih.moved hallows horderly

/-- While the pool has room, the threads that wait get nearer to coming back. -/
theorem nears (r : Run settings T) {start n : Nat}
    (hroom : ∀ n, start ≤ n → (r.state n).pool.mustWait = false) (hn : start ≤ n) (k : Nat) :
    Nears (r.state n) (r.state (n + k)) := by
  induction k with
  | zero => exact ⟨Nat.le_refl _, fun _ hu => .inl hu⟩
  | succ k ih =>
    refine ih.trans ?_
    rw [← Nat.add_assoc]
    rcases r.step (n + k) with hsame | ⟨m, hallows, horderly, hafter⟩
    · rw [hsame]
      exact ⟨Nat.le_refl _, fun _ hu => .inl hu⟩
    · rw [hafter]
      exact nears_after hallows horderly.2 (hroom (n + k) (by omega))

/-- The pool has no room at some time, unless the effort stops getting less though there are always
threads that were notified. -/
theorem exists_mustWait (r : Run settings T) (hfair : r.IsFair) {start : Nat}
    (hnotified : ∀ n, start ≤ n → (r.state n).pool.mustWait = false →
      ∃ t, (r.state n).activity t = .notified) :
    ∃ n, start ≤ n ∧ (r.state n).pool.mustWait = true := by
  by_contra hnever
  have hroom : ∀ n, start ≤ n → (r.state n).pool.mustWait = false := by
    intro n hn
    by_contra hwait
    exact hnever ⟨n, hn, by simpa using hwait⟩
  -- By induction on the effort: the thread that was notified comes back, and less is left then.
  have hless : ∀ e n, start ≤ n → (r.state n).effort = e → False := by
    intro e
    induction e using Nat.strongRecOn with
    | ind e ih =>
      intro n hn he
      obtain ⟨t, ht⟩ := hnotified n hn (hroom n hn)
      obtain ⟨k, hk⟩ := hfair n t ht
      have hlater := ((r.nears hroom hn k).2 t ht).resolve_left hk
      exact ih _ (he ▸ hlater) (n + k) (by omega) rfl
  exact hless _ start (Nat.le_refl _) rfl

/-- The run of given steps, after which nothing happens. -/
def ofMoves (moves : List (PoolMove T)) (hmoves : (fresh settings).AllowsAll IsOrderlyUse moves) :
    Run settings T where
  state n := (fresh settings).afterAll (moves.take n)
  start := rfl
  step n := by
    by_cases hn : n < moves.length
    · refine .inr ⟨moves[n], (hmoves.at hn).1, (hmoves.at hn).2, ?_⟩
      rw [List.take_succ_eq_append_getElem hn]
      exact List.foldl_append ..
    · rw [List.take_of_length_le (by omega), List.take_of_length_le (by omega)]
      exact .inl rfl

end Run

/-- While a thread waits for a connection, there is room for no more threads than were notified and
have not come back, except for the notifications that were lost because a notified thread was
refused a connection. If none is lost, and notified threads come back, then no thread sleeps for
ever while a connection is idle or could be opened. -/
theorem wakeups_arrive {settings : PoolSettings} (hblock : settings.block = true)
    (hsize : settings.maxSize = some maxSize) (hpositive : 1 ≤ maxSize) :
    (∀ s : SharedPool T, Reachable settings IsOrderlyUse s → ∀ t, s.activity t = .waiting →
      s.room maxSize ≤ s.count .notified + s.wasted) ∧
    ∀ r : Run settings T, r.IsFair → (∀ n, (r.state n).wasted = 0) →
      ∀ t start, (∀ n, start ≤ n → (r.state n).activity t = .waiting) →
        ∃ n, start ≤ n ∧ (r.state n).pool.idle = [] ∧ maxSize ≤ (r.state n).pool.opened := by
  refine ⟨fun s hs => hs.room_le hsize, ?_⟩
  intro r hfair hwasted t start hasleep
  have hnotified : ∀ n, start ≤ n → (r.state n).pool.mustWait = false →
      ∃ u, (r.state n).activity u = .notified := by
    intro n hn hroom
    have hs := r.reachable n
    have halert := hs.room_le hsize t (hasleep n hn)
    have hbounded := (hs.isOwned hblock hsize hpositive).bounded
    have hfree := idle_or_below_of_not_mustWait (by rw [hs.settings, hblock])
      (by rw [hs.settings, hsize]) hroom
    rw [hwasted n, room] at halert
    refine exists_of_count_pos ?_
    rcases hfree with hidle | hbelow
    · have hpos := List.length_pos_iff.2 hidle
      omega
    · omega
  obtain ⟨n, hn, hwait⟩ := r.exists_mustWait hfair hnotified
  have hlimit : (r.state n).pool.settings.maxSize = some maxSize := by
    rw [(r.reachable n).settings, hsize]
  exact ⟨n, hn, full_of_mustWait hlimit hwait⟩

/-- Two threads wait for the connection of a third. The first of them gets it when it comes back,
and keeps it. -/
def keeping : List (PoolMove (Fin 3)) :=
  [.enter 0 0 none, .enter 1 0 none, .enter 2 0 none, .beginReturn 0 0,
    .endReturn 0 0 1 .done (some 1), .enter 1 2 none]

/-- A thread sleeps for ever if another one keeps the only connection, but then there is none for
it. -/
theorem wakeups_arrive_keeping :
    ∃ r : Run single (Fin 3), r.IsFair ∧ (∀ n, (r.state n).wasted = 0) ∧
      (∀ n, 3 ≤ n → (r.state n).activity 2 = .waiting) ∧
      (r.state 5).room 1 ≤ (r.state 5).count .notified + (r.state 5).wasted ∧
      ∃ n, 5 ≤ n ∧ (r.state n).pool.idle = [] ∧ 1 ≤ ((r.state n).pool.opened : Int) := by
  let r : Run single (Fin 3) := .ofMoves keeping (by decide)
  have hlast : ∀ n, 6 ≤ n → r.state n = (fresh single).afterAll keeping := by
    intro n hn
    show (fresh single).afterAll (keeping.take n) = _
    rw [List.take_of_length_le hn]
  have hfair : r.IsFair := by
    have hback : ∀ t, ((fresh single).afterAll keeping).activity t ≠ .notified := by decide
    intro n t _
    refine ⟨6, ?_⟩
    rw [hlast (n + 6) (by omega)]
    exact hback t
  have hwasted : ∀ n, (r.state n).wasted = 0 := by
    intro n
    by_cases hn : n < 6
    · revert n
      decide
    · rw [hlast n (by omega)]
      decide
  have hasleep : ∀ n, 3 ≤ n → (r.state n).activity 2 = .waiting := by
    intro n
    by_cases hn : n < 6
    · revert n
      decide
    · intro _
      rw [hlast n (by omega)]
      decide
  obtain ⟨hroom, harrive⟩ := @wakeups_arrive (Fin 3) _ _ _ single rfl rfl (by decide)
  exact ⟨r, hfair, hwasted, hasleep, hroom _ (r.reachable 5) 2 (hasleep 5 (by omega)),
    harrive r hfair hwasted 2 5 fun n hn => hasleep n (by omega)⟩

/-- The only connection is lost on its return while two threads wait for it. The one that is
notified is refused a new one. -/
def refusing : List (PoolMove (Fin 3)) :=
  [.enter 0 0 none, .enter 1 0 none, .enter 2 0 none, .beginReturn 0 0,
    .endReturn 0 0 1 .refused (some 1), .enter 1 2 (some .refused)]

/-- A thread is left asleep though a connection could be opened and no thread was notified. None
will be, as none has a connection to return. -/
theorem wakeup_lost_refusing :
    ∃ s : SharedPool (Fin 3), Reachable single IsOrderlyUse s ∧ s.activity 2 = .waiting ∧
      s.count .notified = 0 ∧ s.room 1 = 1 ∧ s.held = [] := by
  have hs : Reachable single IsOrderlyUse ((fresh single).afterAll refusing) :=
    Reachable.new.afterAll (by decide)
  exact ⟨_, hs, by decide, by decide, by decide, by decide⟩

end TdsClient.SharedPool
