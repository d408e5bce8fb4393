import Mathlib.Tactic.Linarith
import TdsClient.Proofs.Pool.Ownership
import TdsClient.Proofs.Pool.WriteOff

/-!
# Which connection of a pool is used again

A pool looks for a connection from the front of its idle ones, and stops at
the first that has not expired. Nothing tells it that the others have not
expired either: this is so because connections come back in the order of
the clock and are put at the end, so that those that have expired stand in
front of those that have not.

The clock is looked at under the lock, where it stands still, and does not
go back between one step and the next.

## Main definitions

* `Pool.expired`, `Pool.unexpired` — the idle connections that are too old,
  and those that are not.
* `Pool.IsOrdered` — the idle connections stand as they came back.
* `Pool.Serves` — how a connection should be taken.
* `SharedPool.ReachableBy` — runs under a clock.

## Main results

* `SharedPool.ReachableBy.isOrdered` — the order is kept in every run.
* `SharedPool.acquire_serves_earliest` — connections are taken as they
  should be, whatever was taken and returned before.
-/

namespace TdsClient

namespace Pool

/-! ## Idle connections in order -/

/-- The idle connections that are too old to be handed out at a time. -/
def expired (p : Pool) (now : Rat) : List IdleConnection := p.idle.filter (isExpired p.settings now)

/-- The idle connections that may still be handed out. -/
def unexpired (p : Pool) (now : Rat) : List IdleConnection :=
  p.idle.filter fun i => !isExpired p.settings now i

/-- A connection may be handed out for as long as the limit says, to the very end. -/
theorem mem_unexpired {p : Pool} {now : Rat} {i : IdleConnection} :
    i ∈ p.unexpired now ↔
      i ∈ p.idle ∧ ∀ limit, p.settings.idleLimit = some limit → now ≤ i.released + limit := by
  rw [unexpired, List.mem_filter, isExpired]
  cases p.settings.idleLimit with
  | none => simp
  | some limit => simp

/-- A connection that came back before one that has expired has expired too. -/
theorem isExpired_of_le {settings : PoolSettings} {now : Rat} {i j : IdleConnection}
    (hle : i.released ≤ j.released) (hj : isExpired settings now j = true) :
    isExpired settings now i = true := by
  unfold isExpired at hj ⊢
  cases hlimit : settings.idleLimit with
  | none => simp [hlimit] at hj
  | some limit =>
    simp only [hlimit, decide_eq_true_eq] at hj ⊢
    linarith

/-- The idle connections stand in the order in which they came back, all of them by now, and are
not more than are kept. -/
structure IsOrdered (p : Pool) (now : Rat) : Prop where
  ordered : p.idle.Pairwise fun i j => i.released ≤ j.released
  past : ∀ i ∈ p.idle, i.released ≤ now
  bounded : ∀ maxSize, p.settings.maxSize = some maxSize → p.idle.length ≤ maxSize.toNat

/-- Taking idle connections out leaves the others in order. -/
theorem IsOrdered.of_sublist {p q : Pool} {now later : Rat} (h : p.IsOrdered now)
    (hsettings : q.settings = p.settings) (hidle : q.idle.Sublist p.idle) (hle : now ≤ later) :
    q.IsOrdered later where
  ordered := h.ordered.sublist hidle
  past i hi := (h.past i (hidle.subset hi)).trans hle
  bounded maxSize hsize := hidle.length_le.trans (h.bounded maxSize (hsettings ▸ hsize))

/-- What is left of the idle connections when one is taken. -/
theorem Acquires.idle_sublist {p : Pool} {now : Rat} {connected : Except PoolError Nat}
    {done : PoolOutcome Nat} (h : Acquires p now connected done) :
    done.pool.idle.Sublist p.idle := by
  have hrest : ∀ (front rest : List IdleConnection) (i : IdleConnection),
      rest.Sublist (front ++ i :: rest) := fun front rest i =>
    (List.sublist_cons_self i rest).trans (List.sublist_append_right ..)
  cases h with
  | reused hidle => exact hidle ▸ hrest _ _ _
  | connected => exact List.nil_sublist _
  | refused => exact List.nil_sublist _
  | overReleased hidle => exact hidle ▸ hrest _ _ _

/-- A connection that is kept comes behind those that came back before it. -/
theorem IsOrdered.released {p : Pool} {now later : Rat} {c : Nat} {rollback : Rollback}
    {done : PoolOutcome Unit} (h : p.IsOrdered now) (hle : now ≤ later)
    (hdone : Releases p later c rollback done) : done.pool.IsOrdered later := by
  have hsame : p.IsOrdered later := h.of_sublist rfl (List.Sublist.refl _) hle
  cases hdone with
  | kept _ hroom =>
    constructor
    · refine List.pairwise_append.2 ⟨h.ordered, List.pairwise_singleton .., fun i hi j hj => ?_⟩
      rw [List.mem_singleton.1 hj]
      exact hsame.past i hi
    · intro i hi
      rcases List.mem_append.1 hi with hi | hi
      · exact hsame.past i hi
      · rw [List.mem_singleton.1 hi]
    · intro maxSize hsize
      have hbelow : (p.idle.length : Int) < maxSize := by
        have hsize : p.settings.maxSize = some maxSize := hsize
        simpa [hasRoom, hsize] using hroom
      rw [List.length_append, List.length_singleton]
      omega
  | closed => exact hsame.of_sublist rfl (List.Sublist.refl _) le_rfl
  | overReleased => exact hsame
  | failed => exact hsame

/-- What is left of idle connections that are closed in order, if some of them cannot be. -/
theorem closeAll_idle_sublist (p : Pool) (idle : List IdleConnection) :
    (p.closeAll idle).pool.idle.Sublist idle.reverse := by
  induction idle generalizing p with
  | nil => exact List.Sublist.refl _
  | cons i rest ih =>
    have hrest : rest.reverse.Sublist (i :: rest).reverse :=
      List.reverse_sublist.2 (List.sublist_cons_self i rest)
    rw [closeAll]
    cases p.opened with
    | zero => exact hrest
    | succ n => exact (ih { p with opened := n }).trans hrest

/-! ## Taking a connection -/

/-- Taking a connection as it should be: exactly the idle connections that have expired are closed,
and of the others the one that came back first is taken. Only if there is none, a new one is
opened. -/
inductive Serves (p : Pool) (now : Rat) (connected : Except PoolError Nat)
    (done : PoolOutcome Nat) : Prop
  | reused {i : IdleConnection} {rest : List IdleConnection}
      (hfound : p.unexpired now = i :: rest) (hfirst : ∀ j ∈ rest, i.released ≤ j.released)
      (hevents : done.events = closing (p.expired now)) (hresult : done.result = .ok i.connection)
      (hidle : done.pool.idle = rest)
  | opened (hnone : p.unexpired now = [])
      (hevents : done.events = closing (p.expired now) ++ [.connect])
      (hresult : done.result = connected) (hidle : done.pool.idle = [])

/-- When all idle connections have expired, those are the expired ones. -/
theorem expired_eq_idle {p : Pool} {now : Rat}
    (hexpired : ∀ j ∈ p.idle, isExpired p.settings now j = true) :
    p.expired now = p.idle ∧ p.unexpired now = [] :=
  ⟨List.filter_eq_self.2 hexpired, List.filter_eq_nil_iff.2 fun j hj => by simp [hexpired j hj]⟩

/-- Where the first that has not expired stands among idle connections in order, the expired ones
end. -/
theorem IsOrdered.expired_eq {p : Pool} {now later : Rat} {front rest : List IdleConnection}
    {i : IdleConnection} (h : p.IsOrdered now) (hidle : p.idle = front ++ i :: rest)
    (hexpired : ∀ j ∈ front, isExpired p.settings later j = true)
    (hfresh : isExpired p.settings later i = false) :
    p.expired later = front ∧ p.unexpired later = i :: rest ∧
      ∀ j ∈ rest, i.released ≤ j.released := by
  have hordered := h.ordered
  rw [hidle] at hordered
  have hfirst : ∀ j ∈ rest, i.released ≤ j.released :=
    (List.pairwise_cons.1 (List.pairwise_append.1 hordered).2.1).1
  have hlater : ∀ j ∈ i :: rest, isExpired p.settings later j = false := by
    intro j hj
    by_contra hexp
    have hi : isExpired p.settings later i = true := by
      rcases List.mem_cons.1 hj with rfl | hj
      · simpa using hexp
      · exact isExpired_of_le (hfirst j hj) (by simpa using hexp)
    rw [hfresh] at hi
    cases hi
  refine ⟨?_, ?_, hfirst⟩
  · have hnone : (i :: rest).filter (isExpired p.settings later) = [] :=
      List.filter_eq_nil_iff.2 fun j hj => by simp [hlater j hj]
    rw [expired, hidle, List.filter_append, hnone, List.append_nil]
    exact List.filter_eq_self.2 hexpired
  · have hnone : front.filter (fun j => !isExpired p.settings later j) = [] :=
      List.filter_eq_nil_iff.2 fun j hj => by simp [hexpired j hj]
    rw [unexpired, hidle, List.filter_append, hnone, List.nil_append]
    exact List.filter_eq_self.2 fun j hj => by simp [hlater j hj]

/-- A pool whose idle connections are in order and counted serves as it should. -/
theorem IsOrdered.serves {p : Pool} {now later : Rat} {connected : Except PoolError Nat}
    {done : PoolOutcome Nat} (h : p.IsOrdered now) (hcounted : p.idle.length ≤ p.opened)
    (hdone : Acquires p later connected done) : Serves p later connected done := by
  cases hdone with
  | reused hidle hexpired hfresh _ =>
    obtain ⟨hclosed, hfound, hfirst⟩ := h.expired_eq hidle hexpired hfresh
    exact .reused hfound hfirst (by rw [hclosed]) rfl rfl
  | connected hexpired _ hc =>
    obtain ⟨hclosed, hnone⟩ := expired_eq_idle hexpired
    exact .opened hnone (by rw [hclosed]) hc.symm rfl
  | refused hexpired _ he =>
    obtain ⟨hclosed, hnone⟩ := expired_eq_idle hexpired
    exact .opened hnone (by rw [hclosed]) he.symm rfl
  | @overReleased expired rest i hidle _ _ hopened =>
    -- there would be more idle connections than are counted
    simp only [hidle, List.length_append, List.length_cons] at hcounted
    omega

end Pool

/-- When a step is made, under a clock that shows a time: a step that looks at the clock says so,
another one is made at once. -/
def PoolMove.time {T : Type} (now : Rat) : PoolMove T → Rat
  | .enter _ time _ | .endReturn _ _ time _ _ => time
  | .stir _ | .beginReturn .. | .finalize => now

namespace SharedPool

/-- A pool that has to wait has no idle connection. -/
theorem idle_eq_nil_of_mustWait {p : Pool} (hwait : p.mustWait = true) : p.idle = [] := by
  cases hsize : p.settings.maxSize with
  | none => simp [Pool.mustWait, hsize] at hwait
  | some maxSize => exact (full_of_mustWait hsize hwait).1

/-! ## Runs under a clock -/

variable {T : Type} [DecidableEq T] {settings : PoolSettings}
  {Admits : SharedPool T → PoolMove T → Prop} {now : Rat} {s : SharedPool T}

/-- What a new pool can become by a time by steps that are possible and admitted, under a clock that
does not go back. -/
inductive ReachableBy (settings : PoolSettings) (Admits : SharedPool T → PoolMove T → Prop) :
    Rat → SharedPool T → Prop
  | new (now : Rat) : ReachableBy settings Admits now (fresh settings)
  | moved {now : Rat} {s : SharedPool T} {m : PoolMove T} (hs : ReachableBy settings Admits now s)
      (htime : now ≤ m.time now) (hallows : s.Allows m) (hadmits : Admits s m) :
      ReachableBy settings Admits (m.time now) (s.after m)

/-- Runs under a clock are runs. -/
theorem ReachableBy.reachable (hs : ReachableBy settings Admits now s) :
    Reachable settings Admits s := by
  induction hs with
  | new now => exact .new
  | moved hs htime hallows hadmits ih => exact ih.moved hallows hadmits

/-- Every step keeps the idle connections in order. -/
theorem isOrdered_after (hs : s.pool.IsOrdered now) {m : PoolMove T} (htime : now ≤ m.time now) :
    (s.after m).pool.IsOrdered (m.time now) := by
  cases m with
  | enter t later refusal =>
    cases hwait : s.pool.mustWait with
    | true =>
      rw [after_enter_of_mustWait hwait]
      exact hs.of_sublist rfl (List.Sublist.refl _) htime
    | false =>
      have hdone := s.pool.acquires_acquire later (s.connecting refusal)
      rw [after_enter_of_not_mustWait hwait, pool_handedTo]
      exact hs.of_sublist hdone.settings hdone.idle_sublist htime
  | stir t => exact hs
  | beginReturn t c => exact hs
  | endReturn t c later rollback u =>
    exact hs.released htime (s.pool.releases_release later c rollback)
  | finalize =>
    have hleft := s.pool.closeAll_idle_sublist s.pool.idle.reverse
    rw [List.reverse_reverse] at hleft
    exact hs.of_sublist (s.pool.settings_closeAll _) hleft le_rfl

/-- In every run under a clock, whatever its steps, the idle connections are in order. -/
theorem ReachableBy.isOrdered (hs : ReachableBy settings Admits now s) :
    s.pool.IsOrdered now := by
  induction hs with
  | new now => exact ⟨List.Pairwise.nil, by simp [fresh], by simp [fresh]⟩
  | moved hs htime hallows hadmits ih => exact isOrdered_after ih htime

/-- Taking and returning connections writes none of them off. -/
theorem Reachable.writtenOff_eq_nil (hs : Reachable settings IsOrderlyUse s) :
    s.writtenOff = [] := by
  induction hs with
  | new => rfl
  | @moved s m hs hallows huse ih =>
    cases m with
    | enter t now refusal =>
      cases hwait : s.pool.mustWait with
      | true =>
        rw [after_enter_of_mustWait hwait]
        exact ih
      | false =>
        rw [after_enter_of_not_mustWait hwait, writtenOff_handedTo]
        exact ih
    | stir t => exact ih
    | beginReturn t c => exact ih
    | endReturn t c now rollback u => exact ih
    | finalize => exact absurd huse.2 (by simp [PoolMove.isUse])

/-- So none comes back that was. -/
theorem Reachable.isOrderlyKeeping (hs : Reachable settings IsOrderlyUse s) :
    Reachable settings IsOrderlyKeeping s := by
  induction hs with
  | new => exact .new
  | @moved s m hs hallows huse ih =>
    have hnone : ¬ s.ReturnsWrittenOff m := by
      cases m <;> simp [ReturnsWrittenOff, hs.writtenOff_eq_nil]
    exact ih.moved hallows ⟨huse.1, hnone⟩

/-- However connections were taken and returned under a clock that does not go back, the idle ones
stand in the order in which they came back, and are not more than the pool keeps. A thread that
comes for a connection waits only if none is idle. Otherwise exactly the expired ones are
closed, and it gets the one that came back first of the others, or a new one if there are no
others. -/
theorem acquire_serves_earliest (hs : ReachableBy settings IsOrderlyUse now s) :
    s.pool.idle.Pairwise (fun i j => i.released ≤ j.released) ∧
      (∀ maxSize, settings.maxSize = some maxSize → s.pool.idle.length ≤ maxSize.toNat) ∧
      ∀ (t : T) (later : Rat) (refusal : Option PoolError),
        let s' := s.after (.enter t later refusal)
        let done := s.pool.acquire later (s.connecting refusal)
        (s.pool.idle = [] ∧ s' = s.asleep t) ∨
          Pool.Serves s.pool later (s.connecting refusal) done ∧ s' = s.handedTo t done := by
  have hordered := hs.isOrdered
  have hsettings := hs.reachable.settings
  have hcounted := hs.reachable.isOrderlyKeeping.isKept.toIsBalanced.idle_le
  refine ⟨hordered.ordered, fun maxSize hsize => hordered.bounded maxSize (hsettings ▸ hsize), ?_⟩
  intro t later refusal s' done
  cases hwait : s.pool.mustWait with
  | true => exact .inl ⟨idle_eq_nil_of_mustWait hwait, after_enter_of_mustWait hwait ..⟩
  | false =>
    exact .inr ⟨hordered.serves hcounted (s.pool.acquires_acquire ..),
      after_enter_of_not_mustWait hwait ..⟩

/-! ## Runs of given steps under a clock -/

/-- What the clock shows after steps in order. -/
def clockAfter (now : Rat) (moves : List (PoolMove T)) : Rat := moves.foldl PoolMove.time now

/-- Whether the clock does not go back from one step to the next. -/
def GoesOn (now : Rat) : List (PoolMove T) → Prop
  | [] => True
  | m :: rest => now ≤ m.time now ∧ GoesOn (m.time now) rest

instance decidableGoesOn : (now : Rat) → (moves : List (PoolMove T)) → Decidable (GoesOn now moves)
  | _, [] => .isTrue trivial
  | now, m :: rest =>
    let _ := decidableGoesOn (m.time now) rest
    inferInstanceAs (Decidable (_ ∧ _))

theorem ReachableBy.afterAll (hs : ReachableBy settings Admits now s) {moves : List (PoolMove T)}
    (hclock : GoesOn now moves) (hmoves : s.AllowsAll Admits moves) :
    ReachableBy settings Admits (clockAfter now moves) (s.afterAll moves) := by
  induction moves generalizing now s with
  | nil => exact hs
  | cons m rest ih =>
    obtain ⟨htime, hrest⟩ := hclock
    obtain ⟨⟨hallows, hadmits⟩, hlater⟩ := hmoves
    exact ih (hs.moved htime hallows hadmits) hrest hlater

/-- A pool that keeps three connections, each for five seconds. -/
def briefly : PoolSettings := { idleLimit := some 5, maxSize := some 3 }

/-- Three threads return what they took, the second and the third of them at the same time. -/
def returningTogether (a b c : T) : List (PoolMove T) :=
  [.enter a 0 none, .enter b 0 none, .enter c 0 none, .beginReturn a 0, .endReturn a 0 1 .done none,
    .beginReturn b 1, .beginReturn c 2, .endReturn b 1 3 .done none, .endReturn c 2 3 .done none]

/-- When the limit is reached for these two, but not passed, the first of them is used again, and
the one that came back before them is closed. -/
theorem acquire_serves_earliest_at_limit :
    ∃ s : SharedPool (Fin 3), ReachableBy briefly IsOrderlyUse 3 s ∧
      s.pool.idle.Pairwise (fun i j => i.released ≤ j.released) ∧ s.pool.idle.length ≤ 3 ∧
      s.pool.expired 8 = [⟨0, 1⟩] ∧ s.pool.unexpired 8 = [⟨1, 3⟩, ⟨2, 3⟩] ∧
      Pool.Serves s.pool 8 (s.connecting none) (s.pool.acquire 8 (s.connecting none)) ∧
      (s.after (.enter 0 8 none)).held = [⟨0, 1⟩] ∧ (s.after (.enter 0 8 none)).closed = [0] := by
  let moves : List (PoolMove (Fin 3)) := returningTogether 0 1 2
  have hclock : GoesOn 0 moves := by decide +kernel
  have hmoves : (fresh briefly).AllowsAll IsOrderlyUse moves := by decide +kernel
  have hs : ReachableBy briefly IsOrderlyUse 3 ((fresh briefly).afterAll moves) :=
    (ReachableBy.new 0).afterAll hclock hmoves
  obtain ⟨hordered, hbounded, hserved⟩ := acquire_serves_earliest hs
  have hidle : ((fresh briefly).afterAll moves).pool.idle ≠ [] := by decide +kernel
  refine ⟨_, hs, hordered, hbounded 3 rfl, by decide +kernel, by decide +kernel, ?_,
    by decide +kernel, by decide +kernel⟩
  exact ((hserved 0 8 none).resolve_left fun h => hidle h.1).1

end SharedPool

end TdsClient
