import TdsClient.Pool

/-!
# What an operation of a pool can come to

Each operation of a pool has a few outcomes, and every outcome fixes the
events, the result and the pool afterwards. They are listed here once, with
the conditions under which they arise, so that what is said of pools later
is said by going through the outcomes.

All outcomes account for the idle connections: those that are taken out are
closed or handed out, and each one that is closed is counted off. The count
only falls short if it was too low before.

## Main definitions

* `Takes`, `Acquires` — the outcomes of taking a connection.
* `Releases` — those of returning one.

## Main results

* `acquires_acquire`, `releases_release` — there are no other outcomes.
* `finalize_of_le` — what finalizing does if enough connections are counted.
-/

namespace TdsClient.Pool

/-- The closing of idle connections in order. -/
def closing (idle : List IdleConnection) : List PoolEvent := idle.map fun i => .close i.connection

/-! ## Taking a connection -/

/-- The outcomes of taking an idle connection: the first that has not expired is taken, or none is
left, or one that has expired is not counted. -/
inductive Takes (p : Pool) (now : Rat) (idle : List IdleConnection) :
    PoolOutcome (Option Nat) → Prop
  | reused {expired rest : List IdleConnection} {i : IdleConnection} {opened : Nat}
      (hidle : idle = expired ++ i :: rest)
      (hexpired : ∀ j ∈ expired, isExpired p.settings now j = true)
      (hfresh : isExpired p.settings now i = false) (hopened : p.opened = opened + expired.length) :
      Takes p now idle ⟨closing expired, .ok (some i.connection), { p with idle := rest, opened }⟩
  | none {opened : Nat} (hexpired : ∀ j ∈ idle, isExpired p.settings now j = true)
      (hopened : p.opened = opened + idle.length) :
      Takes p now idle ⟨closing idle, .ok none, { p with idle := [], opened }⟩
  | overReleased {expired rest : List IdleConnection} {i : IdleConnection}
      (hidle : idle = expired ++ i :: rest)
      (hexpired : ∀ j ∈ expired, isExpired p.settings now j = true)
      (hi : isExpired p.settings now i = true) (hopened : p.opened = expired.length) :
      Takes p now idle
        ⟨closing expired, .error .overReleased, { p with idle := rest, opened := 0 }⟩

/-- An expired connection in front is closed and counted off. -/
theorem Takes.after_expired {p : Pool} {now : Rat} {i : IdleConnection}
    {rest : List IdleConnection} {opened : Nat} {o : PoolOutcome (Option Nat)}
    (hi : isExpired p.settings now i = true) (hopened : p.opened = opened + 1)
    (h : Takes { p with opened } now rest o) :
    Takes p now (i :: rest) { o with events := .close i.connection :: o.events } := by
  cases h with
  | reused hidle hexpired hfresh hcount =>
    refine .reused (congrArg (i :: ·) hidle) (List.forall_mem_cons.2 ⟨hi, hexpired⟩) hfresh ?_
    simp only [List.length_cons] at hcount ⊢
    omega
  | none hexpired hcount =>
    refine .none (List.forall_mem_cons.2 ⟨hi, hexpired⟩) ?_
    simp only [List.length_cons] at hcount ⊢
    omega
  | overReleased hidle hexpired hlast hcount =>
    refine .overReleased (congrArg (i :: ·) hidle) (List.forall_mem_cons.2 ⟨hi, hexpired⟩) hlast ?_
    simp only [List.length_cons] at hcount ⊢
    omega

theorem takes_takeFrom (p : Pool) (now : Rat) (idle : List IdleConnection) :
    Takes p now idle (p.takeFrom now idle) := by
  induction idle generalizing p with
  | nil => exact .none (by simp) rfl
  | cons i rest ih =>
    rw [takeFrom]
    by_cases hi : isExpired p.settings now i = true
    · rw [if_pos hi]
      cases hopened : p.opened with
      | zero =>
        have hfront : i :: rest = [] ++ i :: rest := rfl
        exact .overReleased hfront (by simp) hi hopened
      | succ n => exact (ih { p with opened := n }).after_expired hi hopened
    · rw [if_neg hi]
      have hfront : i :: rest = [] ++ i :: rest := rfl
      have hfresh : isExpired p.settings now i = false := by simpa using hi
      exact .reused hfront (by simp) hfresh rfl

/-- The outcomes of taking a connection that need not be waited for: an idle one is taken, or all
idle ones are closed and a new one is opened or refused, or one that has expired is not counted. -/
inductive Acquires (p : Pool) (now : Rat) (connected : Except PoolError Nat) :
    PoolOutcome Nat → Prop
  | reused {expired rest : List IdleConnection} {i : IdleConnection} {opened : Nat}
      (hidle : p.idle = expired ++ i :: rest)
      (hexpired : ∀ j ∈ expired, isExpired p.settings now j = true)
      (hfresh : isExpired p.settings now i = false) (hopened : p.opened = opened + expired.length) :
      Acquires p now connected
        ⟨closing expired, .ok i.connection, { p with idle := rest, opened }⟩
  | connected {opened c : Nat} (hexpired : ∀ j ∈ p.idle, isExpired p.settings now j = true)
      (hopened : p.opened = opened + p.idle.length) (hc : connected = .ok c) :
      Acquires p now connected
        ⟨closing p.idle ++ [.connect], .ok c, { p with idle := [], opened := opened + 1 }⟩
  | refused {opened : Nat} {e : PoolError}
      (hexpired : ∀ j ∈ p.idle, isExpired p.settings now j = true)
      (hopened : p.opened = opened + p.idle.length) (he : connected = .error e) :
      Acquires p now connected
        ⟨closing p.idle ++ [.connect], .error e, { p with idle := [], opened }⟩
  | overReleased {expired rest : List IdleConnection} {i : IdleConnection}
      (hidle : p.idle = expired ++ i :: rest)
      (hexpired : ∀ j ∈ expired, isExpired p.settings now j = true)
      (hi : isExpired p.settings now i = true) (hopened : p.opened = expired.length) :
      Acquires p now connected
        ⟨closing expired, .error .overReleased, { p with idle := rest, opened := 0 }⟩

theorem acquires_acquire (p : Pool) (now : Rat) (connected : Except PoolError Nat) :
    Acquires p now connected (p.acquire now connected) := by
  have htakes : Takes p now p.idle (p.take now) := takes_takeFrom p now p.idle
  unfold acquire
  cases htaken : p.take now with
  | mk events result pool =>
    rw [htaken] at htakes
    cases htakes with
    | reused hidle hexpired hfresh hopened => exact .reused hidle hexpired hfresh hopened
    | none hexpired hopened =>
      cases connected with
      | ok c => exact .connected hexpired hopened rfl
      | error e => exact .refused hexpired hopened rfl
    | overReleased hidle hexpired hi hopened => exact .overReleased hidle hexpired hi hopened

theorem Acquires.settings {p : Pool} {now : Rat} {connected : Except PoolError Nat}
    {done : PoolOutcome Nat} (h : Acquires p now connected done) :
    done.pool.settings = p.settings := by
  cases h <;> rfl

/-! ## Returning a connection -/

/-- The outcomes of returning a connection: it is kept, or closed because there is no room for it or
it cannot be rolled back, or it is not counted, or the rollback fails for other reasons. -/
inductive Releases (p : Pool) (now : Rat) (c : Nat) (rollback : Rollback) :
    PoolOutcome Unit → Prop
  | kept (hrollback : rollback = .done) (hroom : p.hasRoom = true) :
      Releases p now c rollback
        ⟨[.rollback c, .notify], .ok (), { p with idle := p.idle ++ [⟨c, now⟩] }⟩
  | closed {opened : Nat}
      (hrollback : rollback = .done ∧ p.hasRoom = false ∨ rollback = .refused)
      (hopened : p.opened = opened + 1) :
      Releases p now c rollback ⟨[.rollback c, .close c, .notify], .ok (), { p with opened }⟩
  | overReleased (hrollback : rollback = .done ∧ p.hasRoom = false ∨ rollback = .refused)
      (hopened : p.opened = 0) :
      Releases p now c rollback ⟨[.rollback c], .error .overReleased, p⟩
  | failed {kind : String} (hrollback : rollback = .failed kind) :
      Releases p now c rollback ⟨[.rollback c], .error (.failed kind), p⟩

/-- A connection that is not kept is closed if it is counted. -/
theorem releases_discard {p : Pool} {now : Rat} {c : Nat} {rollback : Rollback}
    (hrollback : rollback = .done ∧ p.hasRoom = false ∨ rollback = .refused) :
    Releases p now c rollback
      { p.discard c with events := .rollback c :: (p.discard c).events } := by
  unfold discard close
  cases hopened : p.opened with
  | zero => exact .overReleased hrollback hopened
  | succ n => exact .closed hrollback hopened

theorem releases_release (p : Pool) (now : Rat) (c : Nat) (rollback : Rollback) :
    Releases p now c rollback (p.release now c rollback) := by
  cases rollback with
  | done =>
    unfold release giveBack
    cases hroom : p.hasRoom with
    | true => exact .kept rfl hroom
    | false => exact releases_discard (.inl ⟨rfl, hroom⟩)
  | refused => exact releases_discard (.inr rfl)
  | failed kind => exact .failed rfl

theorem Releases.settings {p : Pool} {now : Rat} {c : Nat} {rollback : Rollback}
    {done : PoolOutcome Unit} (h : Releases p now c rollback done) :
    done.pool.settings = p.settings := by
  cases h <;> rfl

/-! ## Finalizing -/

theorem settings_closeAll (p : Pool) (idle : List IdleConnection) :
    (p.closeAll idle).pool.settings = p.settings := by
  induction idle generalizing p with
  | nil => rfl
  | cons i rest ih =>
    rw [closeAll]
    cases p.opened with
    | zero => rfl
    | succ n => exact ih { p with opened := n }

/-- Connections that are all counted are all closed, and none is counted any more. -/
theorem closeAll_of_le (p : Pool) (idle : List IdleConnection) (h : idle.length ≤ p.opened) :
    p.closeAll idle = ⟨closing idle, .ok (), { p with idle := [], opened := 0 }⟩ := by
  induction idle generalizing p with
  | nil => rfl
  | cons i rest ih =>
    rw [List.length_cons] at h
    obtain ⟨n, hn⟩ : ∃ n, p.opened = n + 1 := ⟨p.opened - 1, by omega⟩
    have hrest : rest.length ≤ n := by omega
    rw [closeAll, hn]
    simp only
    rw [ih { p with opened := n } hrest]
    rfl

/-- If at least the idle connections are counted, all of them are closed, the one returned last
first. -/
theorem finalize_of_le {p : Pool} (h : p.idle.length ≤ p.opened) :
    p.finalize = ⟨closing p.idle.reverse, .ok (), { p with idle := [], opened := 0 }⟩ :=
  p.closeAll_of_le _ (by rwa [List.length_reverse])

end TdsClient.Pool
