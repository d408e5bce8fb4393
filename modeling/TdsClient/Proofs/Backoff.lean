import Mathlib.Data.Nat.Find
import Mathlib.Data.Rat.Floor
import Mathlib.Tactic.Linarith
import Mathlib.Tactic.Ring
import TdsClient.Backoff

/-!
# Retrying within a budget of time

When attempts are retried, the time at which each one starts and the time
it is allotted follow from the durations of those before it, whatever they
come to. So the attempts can be looked at as an endless sequence of turns,
of which a run takes the first few: up to the first that succeeds, whose
failure is not survived, or after which the time is up.

Allotments do not shrink until one reaches up to the deadline, and the turn
of that one is the last. So every other turn takes at least the first
allotment, which bounds their number. The bound that the loop is given is
this one, and it never ends a run.

## Main definitions

* `Turn`, `turn` — the turns of attempts.
* `IsLast` — whether a run ends with an attempt.
* `EndsWith`, `WithinBudget` — how a run ends, and what it keeps to.

## Main results

* `exists_last` — there is a last attempt, and when at the latest.
* `run_within_budget` — runs keep to their budget.
-/

namespace TdsClient.Backoff

variable {ε η α : Type}

theorem shorter_eq_min (s t : Rat) : shorter s t = min s t := by
  unfold shorter
  rcases lt_or_ge t s with h | h
  · rw [if_pos h, min_eq_right h.le]
  · rw [if_neg h.not_gt, min_eq_left h]

/-! ## Turns -/

/-- The turn of an attempt: when it starts, and how long it may take. -/
structure Turn where
  start : Rat
  allotment : Rat

/-- When an attempt ends in its turn. -/
def Turn.ended (t : Turn) (a : Attempt ε α) : Rat := t.start + a.duration

/-- What an attempt leaves of its allotment. -/
def Turn.pause (t : Turn) (a : Attempt ε α) : Rat := t.allotment - a.duration

/-- When the turn of an attempt is over, with the pause for what is left. -/
def Turn.passed (t : Turn) (a : Attempt ε α) : Rat :=
  if 0 < t.pause a then t.ended a + t.pause a else t.ended a

/-- An attempt that is early waits for the rest of its allotment. -/
theorem Turn.passed_eq_max (t : Turn) (a : Attempt ε α) :
    t.passed a = t.start + max t.allotment a.duration := by
  unfold passed ended
  by_cases hpause : 0 < t.pause a
  · have hearly : a.duration ≤ t.allotment := (sub_pos.1 hpause).le
    rw [if_pos hpause, max_eq_left hearly, pause]
    ring
  · have hlate : t.allotment ≤ a.duration := sub_nonpos.1 (not_lt.1 hpause)
    rw [if_neg hpause, max_eq_right hlate]

/-- The turn of the attempt number `n` if there are that many, from a time on. -/
def turn (p : Policy) (attempts : Nat → Attempt ε α) (start : Rat) : Nat → Turn
  | 0 => ⟨start, p.first⟩
  | n + 1 =>
    let t := turn p attempts start n
    let later := t.passed (attempts n)
    ⟨later, min (p.factor * t.allotment) (start + p.limit - later)⟩

section turns

variable {p : Policy} {attempts : Nat → Attempt ε α} {start : Rat} {n : Nat}

/-- A turn takes at least its allotment. -/
theorem le_passed (n : Nat) :
    (turn p attempts start n).start + (turn p attempts start n).allotment ≤
      (turn p attempts start n).passed (attempts n) := by
  rw [Turn.passed_eq_max]
  linarith [le_max_left (turn p attempts start n).allotment (attempts n).duration]

/-- As long as the time is not up, allotments are positive and those that do not reach up to the
deadline are not shorter than the first, so that the turns before took that long too. -/
theorem turn_reached (hfirst : 0 < p.first) (hfactor : 1 ≤ p.factor)
    (hreached : ∀ m < n, (turn p attempts start m).passed (attempts m) < start + p.limit) :
    let t := turn p attempts start n
    0 < t.allotment ∧ start + n * p.first ≤ t.start ∧
      (p.first ≤ t.allotment ∨ start + p.limit ≤ t.start + t.allotment) := by
  induction n with
  | zero => exact ⟨hfirst, by simp [turn], .inl le_rfl⟩
  | succ n ih =>
    obtain ⟨hpositive, hstart, hlong⟩ := ih fun m hm => hreached m (Nat.lt_succ_of_lt hm)
    have hearly := hreached n n.lt_succ_self
    have htook : (turn p attempts start n).start + (turn p attempts start n).allotment ≤
        (turn p attempts start n).passed (attempts n) := le_passed n
    have hgrown : (turn p attempts start n).allotment ≤
        p.factor * (turn p attempts start n).allotment :=
      le_mul_of_one_le_left hpositive.le hfactor
    -- the allotment before did not reach up to the deadline, since the time is not up
    have hfull : p.first ≤ (turn p attempts start n).allotment := by
      rcases hlong with hlong | hlong
      · exact hlong
      · linarith
    simp only [turn]
    refine ⟨lt_min (by linarith) (by linarith), ?_, ?_⟩
    · push_cast
      linarith
    · rcases min_choice (p.factor * (turn p attempts start n).allotment)
        (start + p.limit - (turn p attempts start n).passed (attempts n)) with hmin | hmin
      · exact .inl (by rw [hmin]; linarith)
      · exact .inr (by rw [hmin]; linarith)

/-- If the first allotment is not beyond the deadline, none is. -/
theorem turn_le_deadline (hfits : p.first ≤ p.limit) (n : Nat) :
    (turn p attempts start n).start + (turn p attempts start n).allotment ≤ start + p.limit := by
  cases n with
  | zero => simpa [turn] using hfits
  | succ n =>
    have hmin := min_le_right (p.factor * (turn p attempts start n).allotment)
      (start + p.limit - (turn p attempts start n).passed (attempts n))
    simp only [turn]
    linarith

/-- Then the turn of an attempt that did not take longer than it was allotted is not over late. -/
theorem passed_le_deadline (hfits : p.first ≤ p.limit)
    (hkept : (attempts n).duration ≤ (turn p attempts start n).allotment) :
    (turn p attempts start n).passed (attempts n) ≤ start + p.limit := by
  rw [Turn.passed_eq_max, max_eq_left hkept]
  exact turn_le_deadline hfits n

end turns

/-! ## The last attempt -/

/-- The bound on the attempts, for allotments that are positive and do not shrink. -/
theorem maxAttempts_eq {p : Policy} (hfirst : 0 < p.first) (hfactor : 1 ≤ p.factor) :
    p.maxAttempts = max 1 ⌈p.limit / p.first⌉₊ := by
  have hceil : (p.limit / p.first).ceil = ⌈p.limit / p.first⌉ :=
    le_antisymm (Rat.ceil_le_iff.2 (Int.le_ceil _)) (Int.ceil_le.2 Rat.le_ceil)
  have hbounded : p.isBounded = true := decide_eq_true ⟨hfirst, hfactor⟩
  rw [Policy.maxAttempts, if_pos hbounded, hceil, Int.ceil_toNat]

/-- Whether a run ends with an attempt, if it comes to it: the attempt succeeds, handling its
failure raises something, or the time is up when its turn is over. -/
def IsLast (p : Policy) (handle : ε → Except η Unit) (attempts : Nat → Attempt ε α) (start : Rat)
    (n : Nat) : Prop :=
  ∀ e, (attempts n).result = .error e → handle e = .ok () →
    start + p.limit ≤ (turn p attempts start n).passed (attempts n)

section last

variable {p : Policy} {handle : ε → Except η Unit} {attempts : Nat → Attempt ε α} {start : Rat}
  {n : Nat}

/-- An attempt that is not the last fails, its failure is survived, and its turn is over before the
deadline. -/
theorem not_isLast_iff : ¬IsLast p handle attempts start n ↔
    (∃ e, (attempts n).result = .error e ∧ handle e = .ok ()) ∧
      (turn p attempts start n).passed (attempts n) < start + p.limit := by
  constructor
  · intro h
    constructor
    · by_contra hnone
      exact h fun e herror hhandled => absurd ⟨e, herror, hhandled⟩ hnone
    · by_contra hlate
      exact h fun _ _ _ => le_of_not_gt hlate
  · rintro ⟨⟨e, herror, hhandled⟩, hearly⟩ hlast
    exact (hlast e herror hhandled).not_gt hearly

/-- There is a last attempt, and it comes so early that all turns before it can be as long as the
first allotment. -/
theorem exists_last (hfirst : 0 < p.first) (hfactor : 1 ≤ p.factor)
    (handle : ε → Except η Unit) (attempts : Nat → Attempt ε α) (start : Rat) :
    ∃ n < max 1 ⌈p.limit / p.first⌉₊,
      IsLast p handle attempts start n ∧ ∀ m < n, ¬IsLast p handle attempts start m := by
  classical
  have hsome : ∃ n < max 1 ⌈p.limit / p.first⌉₊, IsLast p handle attempts start n := by
    by_contra hnone
    obtain ⟨k, hk⟩ : ∃ k, max 1 ⌈p.limit / p.first⌉₊ = k + 1 :=
      ⟨max 1 ⌈p.limit / p.first⌉₊ - 1, by omega⟩
    have hearly : ∀ m < k + 1, (turn p attempts start m).passed (attempts m) < start + p.limit :=
      fun m hm => (not_isLast_iff.1 fun hlast => hnone ⟨m, hk ▸ hm, hlast⟩).2
    have hstart : start + (k + 1 : Nat) * p.first ≤ (turn p attempts start k).passed (attempts k) :=
      (turn_reached hfirst hfactor hearly).2.1
    have hbelow : (k + 1 : Nat) < p.limit / p.first :=
      (lt_div_iff₀ hfirst).2 (by linarith [hearly k k.lt_succ_self])
    have hcount := Nat.lt_ceil.2 hbelow
    omega
  have hleast : ∃ n, IsLast p handle attempts start n := hsome.imp fun n hn => hn.2
  refine ⟨Nat.find hleast, ?_, Nat.find_spec hleast, fun m hm => Nat.find_min hleast hm⟩
  obtain ⟨n, hn, hlast⟩ := hsome
  exact Nat.lt_of_le_of_lt (Nat.find_min' hleast hlast) hn

end last

/-! ## Runs -/

/-- How a run ends with an attempt: with its result, with what handling its failure raised, or, when
its turn is over, because the time is up. If the first allotment is not beyond the deadline and no
attempt took longer than it was allotted, this is at the deadline. -/
inductive EndsWith (p : Policy) (handle : ε → Except η Unit) (attempts : Nat → Attempt ε α)
    (start : Rat) (n : Nat) (r : Run ε η α) : Prop
  | succeeded {a : α} (hresult : (attempts n).result = .ok a)
      (houtcome : r.outcome = .succeeded a)
      (hclock : r.clock = (turn p attempts start n).ended (attempts n))
  | stopped {e : ε} {raised : η} (hresult : (attempts n).result = .error e)
      (hhandled : handle e = .error raised) (houtcome : r.outcome = .stopped raised)
      (hclock : r.clock = (turn p attempts start n).ended (attempts n))
  | gaveUp {e : ε} (hresult : (attempts n).result = .error e) (hhandled : handle e = .ok ())
      (houtcome : r.outcome = .gaveUp (n + 1))
      (hclock : r.clock = (turn p attempts start n).passed (attempts n))
      (hlate : start + p.limit ≤ r.clock)
      (hexact : p.first ≤ p.limit →
        (∀ m ≤ n, (attempts m).duration ≤ (turn p attempts start m).allotment) →
          r.clock = start + p.limit)

/-- What holds between the turns of two attempts, one after the other: the second is allotted a
factor times as much, or what is left of the time; there is something left; and it starts at least
the first allotment later. -/
structure Follows (p : Policy) (deadline : Rat) (t u : Turn) : Prop where
  allotment : u.allotment = min (p.factor * t.allotment) (deadline - u.start)
  positive : 0 < u.allotment
  apart : t.start + t.allotment ≤ u.start
  early : u.start < deadline

/-- A run that keeps to its budget: it has not too many attempts, the first is allotted what the
policy says and each later one what is due to it, those before the last fail and their failures are
survived, and it ends with the last one as it should. -/
structure WithinBudget (p : Policy) (handle : ε → Except η Unit) (attempts : Nat → Attempt ε α)
    (start : Rat) (r : Run ε η α) : Prop where
  count : r.allotments.length ≤ max 1 ⌈p.limit / p.first⌉₊
  allotted : r.allotments =
    (List.range r.allotments.length).map fun n => (turn p attempts start n).allotment
  first : r.allotments.head? = some p.first
  later : ∀ n, n + 1 < r.allotments.length →
    Follows p (start + p.limit) (turn p attempts start n) (turn p attempts start (n + 1))
  retried : ∀ n, n + 1 < r.allotments.length →
    ∃ e, (attempts n).result = .error e ∧ handle e = .ok ()
  ended : ∃ n, r.allotments.length = n + 1 ∧ EndsWith p handle attempts start n r

section runs

variable {p : Policy} {handle : ε → Except η Unit} {attempts : Nat → Attempt ε α} {start : Rat}
  {n : Nat}

/-- An attempt in front does not change how a run ends. -/
theorem EndsWith.after {r : Run ε η α} (h : EndsWith p handle attempts start n r)
    (allotment : Rat) (e : ε) (pause : Rat) :
    EndsWith p handle attempts start n (.after allotment e pause r) := by
  cases h with
  | succeeded hresult houtcome hclock => exact .succeeded hresult houtcome hclock
  | stopped hresult hhandled houtcome hclock => exact .stopped hresult hhandled houtcome hclock
  | gaveUp hresult hhandled houtcome hclock hlate hexact =>
    exact .gaveUp hresult hhandled houtcome hclock hlate hexact

/-- The run from an attempt on, with a bound on the attempts. -/
def runFromTurn (p : Policy) (handle : ε → Except η Unit) (attempts : Nat → Attempt ε α)
    (start : Rat) (fuel n : Nat) : Run ε η α :=
  let t := turn p attempts start n
  runFrom p handle attempts (start + p.limit) fuel n t.allotment t.start

/-- The last attempt is the only one that is made, whatever the bound. -/
theorem runFromTurn_of_isLast (hlast : IsLast p handle attempts start n) :
    ∃ r : Run ε η α, r.allotments = [(turn p attempts start n).allotment] ∧
      EndsWith p handle attempts start n r ∧
        ∀ fuel, runFromTurn p handle attempts start (fuel + 1) n = r := by
  cases hresult : (attempts n).result with
  | ok a =>
    refine ⟨⟨[(turn p attempts start n).allotment], [], [],
      (turn p attempts start n).ended (attempts n), .succeeded a⟩, rfl,
      .succeeded hresult rfl rfl, fun fuel => ?_⟩
    simp only [runFromTurn, runFrom, hresult, Turn.ended]
  | error e =>
    cases hhandled : handle e with
    | error raised =>
      refine ⟨⟨[(turn p attempts start n).allotment], [e], [],
        (turn p attempts start n).ended (attempts n), .stopped raised⟩, rfl,
        .stopped hresult hhandled rfl rfl, fun fuel => ?_⟩
      simp only [runFromTurn, runFrom, hresult, hhandled, Turn.ended]
    | ok u =>
      have hlate := hlast e hresult hhandled
      refine ⟨.after (turn p attempts start n).allotment e
        ((turn p attempts start n).pause (attempts n))
        ⟨[], [], [], (turn p attempts start n).passed (attempts n), .gaveUp (n + 1)⟩, rfl,
        .gaveUp hresult hhandled rfl rfl hlate fun hfits hkept =>
          le_antisymm (passed_le_deadline hfits (hkept n le_rfl)) hlate, fun fuel => ?_⟩
      simp only [runFromTurn, runFrom, hresult, hhandled]
      exact congrArg _ (if_pos hlate)

/-- After an attempt that is not the last, the run goes on with the next one. -/
theorem runFromTurn_of_not_isLast (hgoes : ¬IsLast p handle attempts start n) :
    ∃ (e : ε) (pause : Rat), ∀ fuel, runFromTurn p handle attempts start (fuel + 1) n =
      .after (turn p attempts start n).allotment e pause
        (runFromTurn p handle attempts start fuel (n + 1)) := by
  obtain ⟨⟨e, hresult, hhandled⟩, hearly⟩ := not_isLast_iff.1 hgoes
  refine ⟨e, (turn p attempts start n).pause (attempts n), fun fuel => ?_⟩
  simp only [runFromTurn, runFrom, hresult, hhandled]
  refine congrArg _ ((if_neg hearly.not_ge).trans ?_)
  rw [shorter_eq_min, mul_comm]
  rfl

/-- A run that may make the attempts up to the last one makes them, and ends with that. -/
theorem runFromTurn_of_last {k : Nat} (hlast : IsLast p handle attempts start (n + k))
    (hgoes : ∀ m < k, ¬IsLast p handle attempts start (n + m)) :
    ∃ r : Run ε η α,
      r.allotments =
        (List.range' n (k + 1)).map (fun m => (turn p attempts start m).allotment) ∧
      EndsWith p handle attempts start (n + k) r ∧
        ∀ fuel, k < fuel → runFromTurn p handle attempts start fuel n = r := by
  induction k generalizing n with
  | zero =>
    obtain ⟨r, hallotments, hends, hrun⟩ := runFromTurn_of_isLast hlast
    refine ⟨r, hallotments, hends, fun fuel hfuel => ?_⟩
    obtain ⟨fuel, rfl⟩ := Nat.exists_eq_succ_of_ne_zero hfuel.ne'
    exact hrun fuel
  | succ k ih =>
    have hfirst : ¬IsLast p handle attempts start n := hgoes 0 k.succ_pos
    obtain ⟨e, pause, hstep⟩ := runFromTurn_of_not_isLast hfirst
    have hnext : n + (k + 1) = n + 1 + k := by omega
    obtain ⟨r, hallotments, hends, hrun⟩ := ih (n := n + 1) (hnext ▸ hlast) fun m hm => by
      have hshift : n + 1 + m = n + (m + 1) := by omega
      exact hshift ▸ hgoes (m + 1) (by omega)
    refine ⟨.after (turn p attempts start n).allotment e pause r, ?_, ?_, fun fuel hfuel => ?_⟩
    · rw [List.range'_succ, List.map_cons, ← hallotments]
      rfl
    · rw [hnext]
      exact hends.after _ e pause
    · obtain ⟨fuel, rfl⟩ := Nat.exists_eq_succ_of_ne_zero (Nat.ne_of_gt (Nat.zero_lt_of_lt hfuel))
      rw [hstep, hrun fuel (by omega)]

/-- Turns that follow one another before the last attempt. -/
theorem follows_turn (hfirst : 0 < p.first) (hfactor : 1 ≤ p.factor)
    (hearly : ∀ m ≤ n, (turn p attempts start m).passed (attempts m) < start + p.limit) :
    Follows p (start + p.limit) (turn p attempts start n) (turn p attempts start (n + 1)) where
  allotment := rfl
  positive := (turn_reached hfirst hfactor fun m hm => hearly m (Nat.le_of_lt_succ hm)).1
  apart := le_passed n
  early := hearly n le_rfl

/-- With a first allotment that is positive and a factor that does not shrink it, runs keep to their
budget, whatever the attempts come to and however long they take. The bound on the attempts is
not what ends them: with a greater bound, the runs are the same. -/
theorem run_within_budget (hfirst : 0 < p.first) (hfactor : 1 ≤ p.factor)
    (handle : ε → Except η Unit) (attempts : Nat → Attempt ε α) (start : Rat) :
    WithinBudget p handle attempts start (run p handle attempts start) ∧
      ∀ fuel, p.maxAttempts ≤ fuel →
        runFrom p handle attempts (start + p.limit) fuel 0 p.first start =
          run p handle attempts start := by
  obtain ⟨n, hn, hlast, hgoes⟩ := exists_last hfirst hfactor handle attempts start
  rw [← maxAttempts_eq hfirst hfactor] at hn
  rw [← n.zero_add] at hlast
  obtain ⟨r, hallotments, hends, hruns⟩ :=
    runFromTurn_of_last (n := 0) hlast fun m hm => m.zero_add.symm ▸ hgoes m hm
  have hrun : run p handle attempts start = r := hruns p.maxAttempts hn
  have hlength : r.allotments.length = n + 1 := by
    rw [hallotments, List.length_map, List.length_range']
  rw [hrun]
  refine ⟨⟨?_, ?_, ?_, ?_, ?_, n, hlength, n.zero_add ▸ hends⟩, fun fuel hfuel => ?_⟩
  · rw [hlength, ← maxAttempts_eq hfirst hfactor]
    exact hn
  · rw [hlength, List.range_eq_range', hallotments]
  · rw [hallotments]
    rfl
  · intro m hm
    exact follows_turn hfirst hfactor fun i hi => (not_isLast_iff.1 (hgoes i (by omega))).2
  · intro m hm
    exact (not_isLast_iff.1 (hgoes m (by omega))).1
  · exact hruns fuel (Nat.lt_of_lt_of_le hn hfuel)

end runs

/-- At most six seconds, of which the first attempt gets one. -/
def sixSeconds : Policy := { limit := 6, first := 1 }

/-- Attempts that fail, of which the second takes longer than it is allotted. -/
def overrunning : Nat → Attempt String Nat :=
  listed [⟨1 / 2, .error "refused"⟩, ⟨3, .error "timed out"⟩] ⟨1 / 4, .error "refused"⟩

/-- The third attempt gets what is left of the time, and it is the last. -/
theorem run_within_budget_overrunning :
    let r := run sixSeconds (fun _ => (.ok () : Except String Unit)) overrunning
    WithinBudget sixSeconds (fun _ => .ok ()) overrunning 0 r ∧ r.allotments = [1, 2, 2] ∧
      r.clock = 6 :=
  ⟨(run_within_budget (by decide) (by decide) _ overrunning 0).1, by decide +kernel,
    by decide +kernel⟩

end TdsClient.Backoff
