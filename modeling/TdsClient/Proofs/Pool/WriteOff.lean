import TdsClient.Proofs.Pool.Sharing

/-!
# Finalizing a pool that is in use

A pool can be finalized while connections are in use. The idle ones are
closed then, and those in use are written off: the pool counts none of them
any more.

As long as no connection that was written off comes back, the count is that
of the idle connections and of those in use that were not written off, so
the next time the pool is finalized all idle connections are closed. The
return of one that was written off is not told apart from that of any
other, and always leaves the count too low by one, or is taken for a second
return.

## Main definitions

* `SharedPool.countedInUse` — the connections in use that are counted.
* `SharedPool.IsBalanced` — the count is what it should be.

## Main results

* `SharedPool.finalize_balanced` — the count in every run in which nothing
  that was written off comes back, and finalizing after any such run.
* `SharedPool.not_isBalanced_of_returned` — the first return of a connection
  that was written off ends that.
-/

namespace TdsClient.SharedPool

variable {T : Type}

/-- The connections in use that no finalizing has written off. -/
def countedInUse (s : SharedPool T) : List Nat := s.inUse.filter (· ∉ s.writtenOff)

/-- A step where rolling back fails only for a reason of the database. -/
def IsOrderly (_ : SharedPool T) (m : PoolMove T) : Prop := m.isOrderly = true

/-- Whether a step returns a connection that was written off. -/
def ReturnsWrittenOff (s : SharedPool T) : PoolMove T → Prop
  | .endReturn _ c _ _ _ => c ∈ s.writtenOff
  | _ => False

instance (s : SharedPool T) : (m : PoolMove T) → Decidable (s.ReturnsWrittenOff m)
  | .endReturn .. => inferInstanceAs (Decidable (_ ∈ _))
  | .enter .. | .stir _ | .beginReturn .. | .finalize => .isFalse id

/-- An orderly step that returns nothing that was written off. -/
def IsOrderlyKeeping (s : SharedPool T) (m : PoolMove T) : Prop :=
  m.isOrderly = true ∧ ¬ s.ReturnsWrittenOff m

instance (s : SharedPool T) (m : PoolMove T) : Decidable (s.IsOrderly m) :=
  inferInstanceAs (Decidable (_ = _))

instance (s : SharedPool T) (m : PoolMove T) : Decidable (s.IsOrderlyKeeping m) :=
  inferInstanceAs (Decidable (_ ∧ _))

/-- The count is that of the idle connections and of those in use that were not written off, and
no connection came back too often. -/
structure IsBalanced (s : SharedPool T) : Prop where
  counted : s.pool.opened = s.idle.length + s.countedInUse.length
  silent : PoolError.overReleased ∉ s.raised

/-- The connections that are idle, in use, or written off. -/
def mentioned (s : SharedPool T) : List Nat := s.idle ++ (s.inUse ++ s.writtenOff)

/-- What keeps the count right: idle connections were not written off, and neither are those still
to be opened. -/
structure IsKept (s : SharedPool T) : Prop extends s.IsBalanced where
  idle_kept : ∀ c ∈ s.idle, c ∉ s.writtenOff
  known : ∀ c ∈ s.mentioned, c < s.next

variable {s : SharedPool T}

theorem IsBalanced.idle_le (h : s.IsBalanced) : s.pool.idle.length ≤ s.pool.opened := by
  have hcounted := h.counted
  have hlength := s.length_idle
  omega

/-- The next new connection was not written off. -/
theorem IsKept.next_kept (h : s.IsKept) : s.next ∉ s.writtenOff := by
  intro hnext
  have hknown := h.known s.next (by simp [mentioned, hnext])
  omega

variable [DecidableEq T]

/-! ## Steps -/

theorem countedInUse_handedTo_ok (s : SharedPool T) (t : T) (events : List PoolEvent) {c : Nat}
    (p : Pool) (hc : c ∉ s.writtenOff) :
    (s.handedTo t ⟨events, .ok c, p⟩).countedInUse = c :: s.countedInUse := by
  simp [countedInUse, hc]

theorem countedInUse_handedTo_error (s : SharedPool T) (t : T) (events : List PoolEvent)
    (e : PoolError) (p : Pool) :
    (s.handedTo t ⟨events, .error e, p⟩).countedInUse = s.countedInUse := rfl

/-- An idle connection that is taken is counted as before. -/
theorem IsKept.reused (h : s.IsKept) (t : T) {expired rest : List IdleConnection}
    {i : IdleConnection} {opened : Nat} (hidle : s.pool.idle = expired ++ i :: rest)
    (hopened : s.pool.opened = opened + expired.length) :
    (s.handedTo t ⟨Pool.closing expired, .ok i.connection,
      { s.pool with idle := rest, opened }⟩).IsKept := by
  have hcounted := h.counted
  have hsplit : s.idle = expired.map (·.connection) ++ i.connection :: rest.map (·.connection) := by
    simp [idle, hidle]
  have hlength : s.idle.length = expired.length + (rest.length + 1) := by simp [hsplit]
  have hi : i.connection ∉ s.writtenOff := h.idle_kept _ (by simp [hsplit])
  constructor
  · constructor
    · simp only [pool_handedTo, idle_handedTo, List.length_map,
        countedInUse_handedTo_ok _ _ _ _ hi, List.length_cons]
      omega
    · exact h.silent
  · intro c hc
    simp only [idle_handedTo] at hc
    rw [writtenOff_handedTo]
    exact h.idle_kept c (by simp [hsplit, hc])
  · intro c hc
    simp only [mentioned, idle_handedTo, inUse_handedTo_ok, writtenOff_handedTo,
      next_handedTo_ok] at hc ⊢
    have hknown := h.known c (by simp [mentioned, hsplit] at hc ⊢; grind)
    omega

/-- A new connection is counted. -/
theorem IsKept.connected (h : s.IsKept) (t : T) {opened : Nat}
    (hopened : s.pool.opened = opened + s.pool.idle.length) :
    (s.handedTo t ⟨Pool.closing s.pool.idle ++ [.connect], .ok s.next,
      { s.pool with idle := [], opened := opened + 1 }⟩).IsKept := by
  have hcounted := h.counted
  have hlength := s.length_idle
  constructor
  · constructor
    · simp only [pool_handedTo, idle_handedTo, List.map_nil, List.length_nil,
        countedInUse_handedTo_ok _ _ _ _ h.next_kept, List.length_cons]
      omega
    · exact h.silent
  · simp
  · intro c hc
    have hbefore : c = s.next ∨ c ∈ s.mentioned := by
      simp [mentioned] at hc ⊢
      grind
    simp only [next_handedTo_ok]
    rcases hbefore with rfl | hc
    · omega
    · have hknown := h.known c hc
      omega

/-- A connection that is refused is not counted. -/
theorem IsKept.refused (h : s.IsKept) (t : T) {opened : Nat} {e : PoolError}
    (he : e ≠ .overReleased) (hopened : s.pool.opened = opened + s.pool.idle.length) :
    (s.handedTo t ⟨Pool.closing s.pool.idle ++ [.connect], .error e,
      { s.pool with idle := [], opened }⟩).IsKept := by
  have hcounted := h.counted
  have hlength := s.length_idle
  constructor
  · constructor
    · simp only [pool_handedTo, idle_handedTo, List.map_nil, List.length_nil,
        countedInUse_handedTo_error]
      omega
    · simpa [he.symm] using h.silent
  · simp
  · intro c hc
    exact h.known c (by simp [mentioned] at hc ⊢; grind)

/-- Whatever comes of taking a connection, the count stays right. -/
theorem IsKept.handedTo (h : s.IsKept) (t : T) {now : Rat} {refusal : Option PoolError}
    {done : PoolOutcome Nat} (hrefusal : refusal ≠ some .overReleased)
    (hdone : Pool.Acquires s.pool now (s.connecting refusal) done) :
    (s.handedTo t done).IsKept := by
  cases hdone with
  | reused hidle _ _ hopened => exact h.reused t hidle hopened
  | connected _ hopened hc =>
    rw [eq_next_of_connecting hc]
    exact h.connected t hopened
  | @refused opened e _ hopened he =>
    have hother : e ≠ .overReleased := by
      rintro rfl
      exact hrefusal (refusal_of_connecting he)
    exact h.refused t hother hopened
  | @overReleased expired rest i hidle _ _ hopened =>
    have hle := h.idle_le
    simp only [hidle, List.length_append, List.length_cons] at hle
    omega

/-- The counted connections in use are the one that is returned and those that stay, unless it was
written off. -/
theorem perm_countedInUse_takenFrom {t : T} {c : Nat} (hheld : ⟨t, c⟩ ∈ s.held)
    (done : PoolOutcome Unit) :
    s.countedInUse.Perm
      ((if c ∈ s.writtenOff then [] else [c]) ++ (s.takenFrom t c done).countedInUse) := by
  have hkept : (s.takenFrom t c done).countedInUse =
      (s.takenFrom t c done).inUse.filter (· ∉ s.writtenOff) := rfl
  have hinUse := (perm_inUse_takenFrom hheld done).filter (· ∉ s.writtenOff)
  rw [hkept]
  by_cases hc : c ∈ s.writtenOff
  · simpa [countedInUse, hc] using hinUse
  · simpa [countedInUse, hc] using hinUse

/-- Whatever comes of returning a connection that was not written off, the count stays right. -/
theorem IsKept.takenFrom (h : s.IsKept) {t : T} {c : Nat} {now : Rat} {rollback : Rollback}
    {done : PoolOutcome Unit} (hheld : ⟨t, c⟩ ∈ s.held) (hc : c ∉ s.writtenOff)
    (horderly : ∀ kind, rollback ≠ .failed kind)
    (hdone : Pool.Releases s.pool now c rollback done) : (s.takenFrom t c done).IsKept := by
  have hcounted := h.counted
  have hlength := (perm_countedInUse_takenFrom hheld done).length_eq
  simp only [hc, if_false, List.length_append, List.length_singleton] at hlength
  have hinUse : ∀ d, d ∈ s.inUse ↔ d ∈ c :: (s.takenFrom t c done).inUse := fun d =>
    (perm_inUse_takenFrom hheld done).mem_iff
  cases hdone with
  | kept hrollback hroom =>
    constructor
    · constructor
      · simp only [idle, pool_takenFrom, List.length_map, List.length_append,
          List.length_singleton] at hcounted ⊢
        omega
      · exact h.silent
    · intro d hd
      simp only [idle_takenFrom, List.map_append, List.mem_append, List.map_cons, List.map_nil,
        List.mem_singleton] at hd
      rcases hd with hd | rfl
      · exact h.idle_kept d hd
      · exact hc
    · intro d hd
      refine h.known d ?_
      simp [mentioned, hinUse] at hd ⊢
      grind [idle]
  | @closed opened hrollback hopened =>
    have hidle : (s.takenFrom t c ⟨[.rollback c, .close c, .notify], .ok (),
      { s.pool with opened }⟩).idle = s.idle := rfl
    constructor
    · constructor
      · simp only [pool_takenFrom, hidle]
        omega
      · exact h.silent
    · exact h.idle_kept
    · intro d hd
      refine h.known d ?_
      simp only [mentioned, hidle, writtenOff_takenFrom, List.mem_append, hinUse,
        List.mem_cons] at hd ⊢
      grind
  | overReleased hrollback hopened => omega -- the connection is in use and was not written off
  | failed hrollback => exact absurd hrollback (horderly _)

/-- Finalizing closes every idle connection, and counts those that are closed. -/
theorem after_finalize_of_balanced (h : s.IsBalanced) :
    s.after .finalize =
      { s with
        pool := { s.pool with idle := [], opened := 0 }
        events := s.events ++ Pool.closing s.pool.idle.reverse
        writtenOff := s.writtenOff ++ s.inUse } := by
  simp only [SharedPool.after, Pool.finalize_of_le h.idle_le, settled]

/-- After finalizing, no connection in use is counted. -/
theorem IsKept.finalized (h : s.IsKept) : (s.after .finalize).IsKept := by
  rw [after_finalize_of_balanced h.toIsBalanced]
  constructor
  · constructor
    · have hnone : s.inUse.filter (· ∉ s.writtenOff ++ s.inUse) = [] :=
        List.filter_eq_nil_iff.2 fun c hc => by simp [hc]
      show 0 = 0 + (s.inUse.filter (· ∉ s.writtenOff ++ s.inUse)).length
      rw [hnone, List.length_nil]
    · exact h.silent
  · simp [idle]
  · intro c hc
    refine h.known c ?_
    simp [mentioned, idle, inUse] at hc ⊢
    grind

/-- A step that returns nothing that was written off keeps the count right. -/
theorem IsKept.after (h : s.IsKept) (hreturns : s.ReturnsOwn) {m : PoolMove T}
    (hallows : s.Allows m) (hkeeping : s.IsOrderlyKeeping m) : (s.after m).IsKept := by
  cases m with
  | enter t now refusal =>
    cases hwait : s.pool.mustWait with
    | true =>
      rw [after_enter_of_mustWait hwait]
      exact ⟨⟨h.counted, h.silent⟩, h.idle_kept, h.known⟩
    | false =>
      rw [after_enter_of_not_mustWait hwait]
      exact h.handedTo t hallows.2 (s.pool.acquires_acquire ..)
  | stir t => exact ⟨⟨h.counted, h.silent⟩, h.idle_kept, h.known⟩
  | beginReturn t c => exact ⟨⟨h.counted, h.silent⟩, h.idle_kept, h.known⟩
  | endReturn t c now rollback u =>
    have htaken := h.takenFrom (hreturns t c hallows.1) hkeeping.2
      (PoolMove.rollback_ne_failed hkeeping.1) (s.pool.releases_release now c rollback)
    exact ⟨⟨htaken.counted, htaken.silent⟩, htaken.idle_kept, htaken.known⟩
  | finalize => exact h.finalized

/-! ## Runs -/

/-- As long as nothing that was written off comes back, the count is right. -/
theorem Reachable.isKept {settings : PoolSettings} (hs : Reachable settings IsOrderlyKeeping s) :
    s.IsKept := by
  induction hs with
  | new =>
    constructor
    · exact ⟨rfl, by simp [fresh]⟩
    · simp [idle, fresh]
    · simp [mentioned, idle, inUse, fresh]
  | moved hs hallows hkeeping ih => exact ih.after hs.returnsOwn hallows hkeeping

/-- In every run in which no connection that was written off comes back, the count is that of the
idle connections and of those in use that were not written off, and no connection is taken to have
come back too often. Finalizing then closes every idle connection. -/
theorem finalize_balanced {settings : PoolSettings}
    (hs : Reachable settings IsOrderlyKeeping s) :
    s.pool.opened = s.idle.length + s.countedInUse.length ∧ s.idle.length ≤ s.pool.opened ∧
      PoolError.overReleased ∉ s.raised ∧
        (s.after .finalize).idle = [] ∧ ∀ c ∈ s.idle, c ∈ (s.after .finalize).closed := by
  have hkept := hs.isKept
  have hcounted := hkept.counted
  refine ⟨hcounted, by omega, hkept.silent, ?_, ?_⟩
  · rw [after_finalize_of_balanced hkept.toIsBalanced]
    rfl
  · intro c hc
    have hclosing : closedIn (Pool.closing s.pool.idle.reverse) = s.idle.reverse := by simp [idle]
    rw [after_finalize_of_balanced hkept.toIsBalanced, closed, closedIn_append, hclosing]
    simp [hc]

/-- The pool is finalized while a thread has a connection; another one that it takes after that
comes back. -/
def outliving : List (PoolMove (Fin 1)) :=
  [.enter 0 0 none, .finalize, .enter 0 1 none, .beginReturn 0 1, .endReturn 0 1 2 .done none]

/-- With one connection written off, another one that was returned is counted, and closed when the
pool is finalized again. -/
theorem finalize_balanced_outliving :
    ∃ s : SharedPool (Fin 1), Reachable {} IsOrderlyKeeping s ∧ s.writtenOff = [0] ∧
      s.idle = [1] ∧ s.pool.opened = 1 + s.countedInUse.length ∧
        1 ∈ (s.after .finalize).closed := by
  have hs : Reachable {} IsOrderlyKeeping ((fresh {}).afterAll outliving) :=
    Reachable.new.afterAll (by decide)
  obtain ⟨hcounted, -, -, -, hclosed⟩ := finalize_balanced hs
  exact ⟨_, hs, by decide, by decide, hcounted, hclosed 1 (by decide)⟩

/-- The return of a connection that was written off leaves the count wrong, or is taken for a second
return. -/
theorem not_isBalanced_of_returned (h : s.IsBalanced) (hreturns : s.ReturnsOwn) {t : T} {c : Nat}
    {now : Rat} {rollback : Rollback} {u : Option T}
    (hallows : s.Allows (.endReturn t c now rollback u))
    (horderly : ∀ kind, rollback ≠ .failed kind) (hc : c ∈ s.writtenOff) :
    ¬ (s.after (.endReturn t c now rollback u)).IsBalanced := by
  intro hafter
  have hheld := hreturns t c hallows.1
  have hcounted := h.counted
  have hcountedAfter : (s.pool.release now c rollback).pool.opened =
      (s.pool.release now c rollback).pool.idle.length +
        (s.takenFrom t c (s.pool.release now c rollback)).countedInUse.length := by
    have hlater := hafter.counted
    rwa [idle, List.length_map] at hlater
  have hlength := (perm_countedInUse_takenFrom hheld (s.pool.release now c rollback)).length_eq
  simp only [hc, if_true, List.nil_append] at hlength
  have hidle := s.length_idle
  have hsilent : PoolError.overReleased ∉
    (s.takenFrom t c (s.pool.release now c rollback)).raised := hafter.silent
  have hdone := s.pool.releases_release now c rollback
  generalize s.pool.release now c rollback = done at hcountedAfter hlength hsilent hdone
  cases hdone with
  | kept hrollback hroom =>
    simp only [List.length_append, List.length_singleton] at hcountedAfter
    omega
  | closed hrollback hopened =>
    simp only at hcountedAfter
    omega
  | overReleased hrollback hopened => simp at hsilent
  | failed hrollback => exact absurd hrollback (horderly _)

/-- The pool is finalized while a thread has its only connection, which comes back then. -/
def returnedLate : List (PoolMove (Fin 1)) :=
  [.enter 0 0 none, .finalize, .beginReturn 0 0, .endReturn 0 0 1 .done none]

/-- A connection that comes back after the pool was finalized is idle and not counted. Finalizing
the pool again fails then, and leaves it open. -/
theorem finalize_fails_returnedLate :
    ∃ s : SharedPool (Fin 1), Reachable {} IsOrderly s ∧ s.idle = [0] ∧ s.pool.opened = 0 ∧
      PoolError.overReleased ∈ (s.after .finalize).raised ∧ 0 ∉ (s.after .finalize).closed := by
  have hs : Reachable {} IsOrderly ((fresh {}).afterAll returnedLate) :=
    Reachable.new.afterAll (by decide)
  exact ⟨_, hs, by decide, by decide, by decide, by decide⟩

end TdsClient.SharedPool
