import TdsClient.Proofs.Pool.Sharing

/-!
# Who has a connection of a shared pool

A pool that waits rather than opening more connections than it may hold
keeps to that limit, whatever its threads do: every connection that is open
is either idle or in use by one thread, and those are the ones counted.

What carries this is that each connection ever opened stands exactly once
among the idle ones, those in use and the closed ones. Closed connections
stay closed, so none of them is ever handed out.

## Main definitions

* `SharedPool.IsOwned` — every connection stands where it should, once.
* `SharedPool.IsExclusive` — what follows for counts, limit and holders.

## Main results

* `SharedPool.Reachable.isOwned` — so it is in every run.
* `SharedPool.connections_exclusive` — the pool counts the open connections,
  keeps to its limit, and hands out each connection to one thread only.
-/

namespace TdsClient.SharedPool

variable {T : Type}

/-- A step of taking or returning a connection, where rolling back fails only for a reason of the
database. -/
def IsOrderlyUse (_ : SharedPool T) (m : PoolMove T) : Prop :=
  m.isOrderly = true ∧ m.isUse = true

instance (s : SharedPool T) (m : PoolMove T) : Decidable (s.IsOrderlyUse m) :=
  inferInstanceAs (Decidable (_ ∧ _))

/-- Every connection that was opened is idle, in use or closed, and is so only once. Those that
are idle or in use are counted, and are not too many. No connection came back too often. -/
structure IsOwned (maxSize : Int) (s : SharedPool T) : Prop where
  counted : s.pool.opened = s.idle.length + s.inUse.length
  bounded : (s.pool.opened : Int) ≤ maxSize
  once : (s.idle ++ s.inUse ++ s.closed).Perm (List.range s.next)
  silent : PoolError.overReleased ∉ s.raised

/-- What a user of the pool sees of that: the count is that of the open connections, which are
the idle ones and those in use, there are not too many of them, and each is idle only once, not
also in use, and in use by one thread only. -/
structure IsExclusive (maxSize : Int) (s : SharedPool T) : Prop where
  counted : s.pool.opened = s.openConnections.length
  inUse_or_idle : (s.idle ++ s.inUse).Perm s.openConnections
  bounded : (s.pool.opened : Int) ≤ maxSize
  idle_once : s.idle.Nodup
  idle_only : ∀ c ∈ s.idle, c ∉ s.inUse
  one_holder : ∀ t u c, ⟨t, c⟩ ∈ s.held → ⟨u, c⟩ ∈ s.held → t = u

variable {s : SharedPool T} {maxSize : Int}

/-! ## Steps -/

theorem IsOwned.nodup (h : s.IsOwned maxSize) : (s.idle ++ s.inUse ++ s.closed).Nodup :=
  h.once.nodup_iff.2 List.nodup_range

theorem IsOwned.lt_next (h : s.IsOwned maxSize) {c : Nat} (hc : c ∈ s.idle) : c < s.next := by
  have hall : c ∈ s.idle ++ s.inUse ++ s.closed := by simp [hc]
  exact List.mem_range.1 (h.once.subset hall)

/-- A pool that has to wait has no idle connection and may not open one. -/
theorem full_of_mustWait {p : Pool} (hsize : p.settings.maxSize = some maxSize)
    (hwait : p.mustWait = true) : p.idle = [] ∧ maxSize ≤ p.opened := by
  have hfull : (p.settings.block = true ∧ p.idle = []) ∧ maxSize ≤ p.opened := by
    simpa [Pool.mustWait, hsize] using hwait
  exact ⟨hfull.1.2, hfull.2⟩

/-- A pool that need not wait has an idle connection or may open one. -/
theorem idle_or_below_of_not_mustWait {p : Pool} (hblock : p.settings.block = true)
    (hsize : p.settings.maxSize = some maxSize) (hwait : p.mustWait = false) :
    p.idle ≠ [] ∨ (p.opened : Int) < maxSize := by
  by_cases hidle : p.idle = []
  · have hroom : ¬ maxSize ≤ p.opened := by
      simpa [Pool.mustWait, hsize, hblock, hidle] using hwait
    exact .inr (by omega)
  · exact .inl hidle

variable [DecidableEq T]

/-- Giving up the lock changes nothing about the connections. -/
theorem IsOwned.asleep (h : s.IsOwned maxSize) (t : T) : (s.asleep t).IsOwned maxSize where
  counted := h.counted
  bounded := h.bounded
  once := by
    rw [closed_asleep]
    exact h.once
  silent := h.silent

/-- Taking an idle connection closes those before it, and puts it in use. -/
theorem IsOwned.reused (h : s.IsOwned maxSize) (t : T) {expired rest : List IdleConnection}
    {i : IdleConnection} {opened : Nat} (hidle : s.pool.idle = expired ++ i :: rest)
    (hopened : s.pool.opened = opened + expired.length) :
    (s.handedTo t ⟨Pool.closing expired, .ok i.connection,
      { s.pool with idle := rest, opened }⟩).IsOwned maxSize := by
  have hcounted := h.counted
  have hbounded := h.bounded
  have hsplit : s.idle = expired.map (·.connection) ++ i.connection :: rest.map (·.connection) := by
    simp [idle, hidle]
  have hlength : s.idle.length = expired.length + (rest.length + 1) := by simp [hsplit]
  have hnext : max s.next (i.connection + 1) = s.next := by
    have hi : i.connection < s.next := h.lt_next (by simp [hsplit])
    omega
  constructor
  · simp only [pool_handedTo, idle_handedTo, inUse_handedTo_ok, List.length_map, List.length_cons]
    omega
  · simp only [pool_handedTo]
    omega
  · simp only [idle_handedTo, inUse_handedTo_ok, closed_handedTo, closedIn_closing,
      next_handedTo_ok, hnext]
    refine .trans (List.perm_iff_count.2 fun c => ?_) h.once
    simp only [hsplit, List.count_append, List.count_cons]
    omega
  · exact h.silent

/-- Opening a connection closes all idle ones, and puts the new one in use. -/
theorem IsOwned.connected (h : s.IsOwned maxSize) (t : T) {opened : Nat}
    (hroom : s.pool.idle ≠ [] ∨ (s.pool.opened : Int) < maxSize)
    (hopened : s.pool.opened = opened + s.pool.idle.length) :
    (s.handedTo t ⟨Pool.closing s.pool.idle ++ [.connect], .ok s.next,
      { s.pool with idle := [], opened := opened + 1 }⟩).IsOwned maxSize := by
  have hcounted := h.counted
  have hbounded := h.bounded
  have hlength := s.length_idle
  have hnext : max s.next (s.next + 1) = s.next + 1 := by omega
  constructor
  · simp only [pool_handedTo, idle_handedTo, inUse_handedTo_ok, List.map_nil, List.length_nil,
      List.length_cons]
    omega
  · have hfits : ((opened + 1 : Nat) : Int) ≤ maxSize := by
      rcases hroom with hidle | hroom
      · have hpositive := List.length_pos_iff.2 hidle
        omega
      · omega
    simpa using hfits
  · simp only [idle_handedTo, inUse_handedTo_ok, closed_handedTo, closedIn_append,
      closedIn_closing, next_handedTo_ok, hnext, List.range_succ]
    refine .trans (List.perm_iff_count.2 fun c => ?_) (h.once.append_right [s.next])
    simp [idle, List.count_cons]
    omega
  · exact h.silent

/-- A refused connection leaves the idle ones closed. -/
theorem IsOwned.refused (h : s.IsOwned maxSize) (t : T) {opened : Nat} {e : PoolError}
    (he : e ≠ .overReleased) (hopened : s.pool.opened = opened + s.pool.idle.length) :
    (s.handedTo t ⟨Pool.closing s.pool.idle ++ [.connect], .error e,
      { s.pool with idle := [], opened }⟩).IsOwned maxSize := by
  have hcounted := h.counted
  have hbounded := h.bounded
  have hlength := s.length_idle
  constructor
  · simp only [pool_handedTo, idle_handedTo, inUse_handedTo_error, List.map_nil, List.length_nil]
    omega
  · simp only [pool_handedTo]
    omega
  · simp only [idle_handedTo, inUse_handedTo_error, closed_handedTo, closedIn_append,
      closedIn_closing, next_handedTo_error]
    refine .trans (List.perm_iff_count.2 fun c => ?_) h.once
    simp [idle]
    omega
  · simpa [he.symm] using h.silent

/-- Whatever comes of taking a connection, the connections stay where they should be. -/
theorem IsOwned.handedTo (h : s.IsOwned maxSize) (t : T) {now : Rat} {refusal : Option PoolError}
    {done : PoolOutcome Nat} (hroom : s.pool.idle ≠ [] ∨ (s.pool.opened : Int) < maxSize)
    (hrefusal : refusal ≠ some .overReleased)
    (hdone : Pool.Acquires s.pool now (s.connecting refusal) done) :
    (s.handedTo t done).IsOwned maxSize := by
  cases hdone with
  | reused hidle _ _ hopened => exact h.reused t hidle hopened
  | connected _ hopened hc =>
    rw [eq_next_of_connecting hc]
    exact h.connected t hroom hopened
  | @refused opened e _ hopened he =>
    have hother : e ≠ .overReleased := by
      rintro rfl
      exact hrefusal (refusal_of_connecting he)
    exact h.refused t hother hopened
  | @overReleased expired rest i hidle _ _ hopened =>
    -- all idle connections are counted, and one that has expired is one of them
    have hcounted := h.counted
    have hlength : s.idle.length = expired.length + (rest.length + 1) := by simp [idle, hidle]
    omega

/-- Whatever comes of returning a connection, the connections stay where they should be. -/
theorem IsOwned.takenFrom (h : s.IsOwned maxSize) {t : T} {c : Nat} {now : Rat}
    {rollback : Rollback} {done : PoolOutcome Unit} (hheld : ⟨t, c⟩ ∈ s.held)
    (horderly : ∀ kind, rollback ≠ .failed kind)
    (hdone : Pool.Releases s.pool now c rollback done) :
    (s.takenFrom t c done).IsOwned maxSize := by
  have hcounted := h.counted
  have hbounded := h.bounded
  have hinUse := perm_inUse_takenFrom hheld done
  have hcount := fun d => hinUse.count_eq d
  have hlength := hinUse.length_eq
  simp only [List.count_cons, List.length_cons] at hcount hlength
  cases hdone with
  | kept hrollback hroom =>
    constructor
    · simp only [idle, pool_takenFrom, List.length_map, List.length_append,
        List.length_singleton] at hcounted ⊢
      omega
    · exact hbounded
    · rw [next_takenFrom]
      refine .trans (List.perm_iff_count.2 fun d => ?_) h.once
      simp [hcount, idle, List.count_cons]
      omega
    · exact h.silent
  | @closed opened hrollback hopened =>
    have hidle : (s.takenFrom t c ⟨[.rollback c, .close c, .notify], .ok (),
      { s.pool with opened }⟩).idle = s.idle := rfl
    constructor
    · simp only [pool_takenFrom, hidle]
      omega
    · simp only [pool_takenFrom]
      omega
    · rw [next_takenFrom, hidle]
      refine .trans (List.perm_iff_count.2 fun d => ?_) h.once
      simp [hcount, List.count_cons]
      omega
    · exact h.silent
  | overReleased hrollback hopened => omega -- the connection is in use, hence counted
  | failed hrollback => exact absurd hrollback (horderly _)

/-- A step of taking or returning connections leaves them where they should be. -/
theorem IsOwned.after (h : s.IsOwned maxSize) (hreturns : s.ReturnsOwn)
    (hblock : s.pool.settings.block = true) (hsize : s.pool.settings.maxSize = some maxSize)
    {m : PoolMove T} (hallows : s.Allows m) (horderly : s.IsOrderlyUse m) :
    (s.after m).IsOwned maxSize := by
  cases m with
  | enter t now refusal =>
    cases hwait : s.pool.mustWait with
    | true =>
      rw [after_enter_of_mustWait hwait]
      exact h.asleep t
    | false =>
      rw [after_enter_of_not_mustWait hwait]
      exact h.handedTo t (idle_or_below_of_not_mustWait hblock hsize hwait) hallows.2
        (s.pool.acquires_acquire ..)
  | stir t => exact ⟨h.counted, h.bounded, h.once, h.silent⟩
  | beginReturn t c => exact ⟨h.counted, h.bounded, h.once, h.silent⟩
  | endReturn t c now rollback u =>
    have htaken := h.takenFrom (hreturns t c hallows.1) (PoolMove.rollback_ne_failed horderly.1)
      (s.pool.releases_release now c rollback)
    exact ⟨htaken.counted, htaken.bounded, htaken.once, htaken.silent⟩
  | finalize => exact absurd horderly.2 (by simp [PoolMove.isUse])

/-! ## Runs -/

/-- In every run of a pool that waits for room, the connections are where they should be. -/
theorem Reachable.isOwned {settings : PoolSettings} (hblock : settings.block = true)
    (hsize : settings.maxSize = some maxSize) (hpositive : 1 ≤ maxSize)
    (hs : Reachable settings IsOrderlyUse s) : s.IsOwned maxSize := by
  induction hs with
  | new =>
    constructor
    · rfl
    · show (0 : Int) ≤ maxSize
      omega
    · exact List.Perm.refl _
    · simp [fresh]
  | @moved s m hs hallows horderly ih =>
    have hsettings := hs.settings
    exact ih.after hs.returnsOwn (hsettings ▸ hblock) (hsettings ▸ hsize) hallows horderly

omit [DecidableEq T] in
/-- Connections that stand where they should are open exactly if they are idle or in use. -/
theorem IsOwned.perm_openConnections (h : s.IsOwned maxSize) :
    (s.idle ++ s.inUse).Perm s.openConnections := by
  have hapart := (List.nodup_append.1 h.nodup).2.2
  have hopen := h.once.filter (· ∉ s.closed)
  rw [List.filter_append] at hopen
  have hkept : (s.idle ++ s.inUse).filter (· ∉ s.closed) = s.idle ++ s.inUse :=
    List.filter_eq_self.2 fun c hc => by
      simpa using fun hclosed => hapart c hc c hclosed rfl
  have hleft : s.closed.filter (· ∉ s.closed) = [] :=
    List.filter_eq_nil_iff.2 fun c hc => by simpa using hc
  rwa [hkept, hleft, List.append_nil] at hopen

omit [DecidableEq T] in
/-- Connections that stand where they should belong to one thread or to the pool. -/
theorem IsOwned.isExclusive (h : s.IsOwned maxSize) : s.IsExclusive maxSize where
  counted := by
    rw [h.counted, ← List.length_append]
    exact h.perm_openConnections.length_eq
  inUse_or_idle := h.perm_openConnections
  bounded := h.bounded
  idle_once := h.nodup.of_append_left.of_append_left
  idle_only := List.disjoint_of_nodup_append h.nodup.of_append_left
  one_holder := by
    have hinUse : s.inUse.Nodup := h.nodup.of_append_left.of_append_right
    intro t u c ht hu
    exact congrArg Holding.thread (List.inj_on_of_nodup_map hinUse ht hu rfl)

/-- A connection that was closed before a run is closed after it. -/
theorem closed_subset_afterAll (s : SharedPool T) (moves : List (PoolMove T)) :
    s.closed ⊆ (s.afterAll moves).closed := by
  obtain ⟨later, hlater⟩ := s.events_prefix_afterAll moves
  intro c hc
  rw [closed, ← hlater, closedIn_append]
  exact List.mem_append_left _ hc

/-- In every run of a pool that waits for room, the open connections are counted and not too many,
each is idle or in use by one thread, and one that was closed is neither idle nor in use at any
time after that. -/
theorem connections_exclusive {settings : PoolSettings} (hblock : settings.block = true)
    (hsize : settings.maxSize = some maxSize) (hpositive : 1 ≤ maxSize)
    (hs : Reachable settings IsOrderlyUse s) :
    s.IsExclusive maxSize ∧
      ∀ moves, s.AllowsAll IsOrderlyUse moves →
        ∀ c ∈ s.closed, c ∉ (s.afterAll moves).idle ∧ c ∉ (s.afterAll moves).inUse := by
  have howned := hs.isOwned hblock hsize hpositive
  refine ⟨howned.isExclusive, ?_⟩
  intro moves hmoves c hc
  have hlater := (hs.afterAll hmoves).isOwned hblock hsize hpositive
  have hclosed := closed_subset_afterAll s moves hc
  have hapart := (List.nodup_append.1 hlater.nodup).2.2
  constructor
  · intro hidle
    exact hapart c (List.mem_append_left _ hidle) c hclosed rfl
  · intro hinUse
    exact hapart c (List.mem_append_right _ hinUse) c hclosed rfl

/-- A pool of one connection that its users wait for. -/
def single : PoolSettings := { maxSize := some 1, block := true }

/-- The second thread waits for the connection of the first, which is lost on its return, and gets
a new one. -/
def replacing : List (PoolMove (Fin 2)) :=
  [.enter 0 0 none, .enter 1 0 none, .beginReturn 0 0, .endReturn 0 0 1 .refused (some 1),
    .enter 1 2 none]

/-- A connection that was lost while another thread waited is replaced by one that is held by that
thread alone. -/
theorem connections_exclusive_replacing :
    ∃ s : SharedPool (Fin 2), Reachable single IsOrderlyUse s ∧ s.held = [⟨1, 1⟩] ∧
      s.closed = [0] ∧ s.IsExclusive 1 ∧
        ∀ moves, s.AllowsAll IsOrderlyUse moves → 0 ∉ (s.afterAll moves).inUse := by
  have hs : Reachable single IsOrderlyUse ((fresh single).afterAll replacing) :=
    Reachable.new.afterAll (by decide)
  obtain ⟨hexclusive, hnever⟩ := connections_exclusive rfl rfl (by decide) hs
  exact ⟨_, hs, by decide, by decide, hexclusive, fun moves hmoves =>
    (hnever moves hmoves 0 (by decide)).2⟩

end TdsClient.SharedPool
