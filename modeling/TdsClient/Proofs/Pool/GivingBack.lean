import TdsClient.Connection.Options
import TdsClient.Connection.Transaction
import TdsClient.Proofs.Pool.Ownership
import TdsClient.Proofs.Pool.WriteOff
import TdsClient.Session.Script

/-!
# Giving the place of a connection back

A thread that returns a connection gives its place in the pool back: the
connection is idle or closed afterwards, it is not counted among those in
use any more, and a thread that waits is told. It does so whether the
connection could be rolled back or the database refused that, as long as the
pool counted its connections right before.

A rollback that fails in any other way takes the place with it. The pool
learns nothing of such a failure, so the connection is neither idle nor
closed but counted, and nobody is told. A connection of this library that
raises warnings fails like that as soon as the server has something to say:
a warning is no refusal.

## Main definitions

* `SharedPool.StandsOnce` — no connection is in two places, whatever was done.
* `SharedPool.IsCounted`, `SharedPool.GivesBack` — what a return should leave.
* `EndsAs` — how the rollback of a connection ends for a pool.

## Main results

* `SharedPool.return_gives_back_iff` — when a return gives the place back.
* `SharedPool.place_lost_remarking` — a rollback that raises a warning does not.
-/

namespace TdsClient

/-- How the rollback of a connection ends for a pool. What the library raises as an error of its
interface or of the database is a refusal; a warning or anything else is not. -/
inductive EndsAs {σ : Type} [Session σ] (c : Connection σ) : Rollback → Prop
  | done {c' : Connection σ} (h : Connection.rollback c = .ok () c') : EndsAs c .done
  | refused {c' : Connection σ} {e : Error} (h : Connection.rollback c = .error e c')
      (he : e.kind = .interface ∨ ∃ errorClass, e.kind = .database errorClass) : EndsAs c .refused
  | failed {c' : Connection σ} {e : Error} {kind : String}
      (h : Connection.rollback c = .error e c')
      (he : e.kind ≠ .interface ∧ ∀ errorClass, e.kind ≠ .database errorClass) :
      EndsAs c (.failed kind)

namespace SharedPool

variable {T : Type}

/-! ## One place for each connection -/

/-- Any step at all. -/
def IsAnyStep (_ : SharedPool T) (_ : PoolMove T) : Prop := True

instance (s : SharedPool T) (m : PoolMove T) : Decidable (s.IsAnyStep m) :=
  inferInstanceAs (Decidable True)

/-- In how many places a connection is: among the idle ones, those in use, and the closed ones. -/
def places (s : SharedPool T) (c : Nat) : Nat :=
  s.idle.count c + s.inUse.count c + s.closed.count c

/-- A connection that was opened is in one place at most, and one that is still to be opened is
nowhere. -/
def StandsOnce (s : SharedPool T) : Prop := ∀ c, s.places c ≤ if c < s.next then 1 else 0

/-- The count is that of the idle connections and those in use. -/
def IsCounted (s : SharedPool T) : Prop := s.pool.opened = s.idle.length + s.inUse.length

instance (s : SharedPool T) : Decidable s.IsCounted := inferInstanceAs (Decidable (_ = _))

variable {s : SharedPool T}

section

variable (c : Nat) (events : List PoolEvent)

@[simp]
theorem closedIn_connect : closedIn (.connect :: events) = closedIn events := rfl

@[simp]
theorem closedIn_rollback : closedIn (.rollback c :: events) = closedIn events := rfl

@[simp]
theorem closedIn_notify : closedIn (.notify :: events) = closedIn events := rfl

end

/-- A connection in use is neither idle nor closed. -/
theorem StandsOnce.apart (h : s.StandsOnce) {c : Nat} (hc : c ∈ s.inUse) :
    c ∉ s.idle ∧ c ∉ s.closed := by
  have hused := List.count_pos_iff.2 hc
  have honce : s.idle.count c + s.inUse.count c + s.closed.count c ≤ 1 :=
    Nat.le_trans (h c) (by split <;> omega)
  constructor
  · intro hidle
    have hcount := List.count_pos_iff.2 hidle
    omega
  · intro hclosed
    have hcount := List.count_pos_iff.2 hclosed
    omega

/-- Where no connection comes to more places, none is in two. -/
theorem StandsOnce.of_le (h : s.StandsOnce) {s' : SharedPool T}
    (hplaces : ∀ c, s'.places c ≤ s.places c) (hnext : s.next ≤ s'.next) : s'.StandsOnce := by
  intro c
  have honce := Nat.le_trans (hplaces c) (h c)
  by_cases hc : c < s.next
  · rw [if_pos hc] at honce
    rwa [if_pos (by omega)]
  · rw [if_neg hc] at honce
    omega

/-- Closing idle connections in order puts none of them in two places, however many are counted. -/
theorem count_closeAll (p : Pool) (idle : List IdleConnection) (c : Nat) :
    ((p.closeAll idle).pool.idle.map (·.connection)).count c +
        (closedIn (p.closeAll idle).events).count c ≤ (idle.map (·.connection)).count c := by
  induction idle generalizing p with
  | nil => exact Nat.le_refl 0
  | cons i rest ih =>
      rw [Pool.closeAll, List.map_cons, List.count_cons]
      cases p.opened with
      | zero =>
          simp only [List.map_reverse, List.count_reverse, closedIn_nil, List.count_nil]
          omega
      | succ n =>
          have hrest := ih { p with opened := n }
          simp only [closedIn_close, List.count_cons]
          omega

variable [DecidableEq T]

/-- Whatever comes of taking a connection, no connection is in two places. -/
theorem StandsOnce.handedTo (h : s.StandsOnce) (t : T) {now : Rat} {refusal : Option PoolError}
    {done : PoolOutcome Nat} (hdone : Pool.Acquires s.pool now (s.connecting refusal) done) :
    (s.handedTo t done).StandsOnce := by
  cases hdone with
  | @reused expired rest i opened hidle _ _ _ =>
      refine h.of_le (fun c => ?_) (Nat.le_max_left _ _)
      simp only [places, idle_handedTo, inUse_handedTo_ok, closed_handedTo, closedIn_closing,
        List.count_append, List.count_cons]
      simp only [idle, hidle, List.map_append, List.map_cons, List.count_append, List.count_cons]
      omega
  | @connected opened c _ _ hc =>
      cases eq_next_of_connecting hc
      intro d
      have honce := h d
      have hplaces : (s.handedTo t ⟨Pool.closing s.pool.idle ++ [.connect], .ok s.next,
          { s.pool with idle := [], opened := opened + 1 }⟩).places d =
            s.places d + if s.next = d then 1 else 0 := by
        simp only [places, idle_handedTo, inUse_handedTo_ok, closed_handedTo, closedIn_append,
          closedIn_closing, closedIn_connect, closedIn_nil, List.map_nil, List.count_nil,
          List.count_append, List.count_cons, beq_iff_eq]
        rw [idle]
        omega
      rw [hplaces, next_handedTo_ok]
      by_cases hd : d < s.next
      · rw [if_pos hd] at honce
        rw [if_neg (by omega), if_pos (by omega)]
        exact honce
      · rw [if_neg hd] at honce
        by_cases hnew : s.next = d
        · rw [if_pos hnew, if_pos (by omega)]
          omega
        · rw [if_neg hnew]
          omega
  | refused _ _ _ =>
      refine h.of_le (fun c => ?_) (Nat.le_refl _)
      simp only [places, idle_handedTo, inUse_handedTo_error, closed_handedTo, closedIn_append,
        closedIn_closing, closedIn_connect, closedIn_nil, List.map_nil, List.count_nil,
        List.count_append]
      rw [idle]
      omega
  | @overReleased expired rest i hidle _ _ _ =>
      refine h.of_le (fun c => ?_) (Nat.le_refl _)
      simp only [places, idle_handedTo, inUse_handedTo_error, closed_handedTo, closedIn_closing,
        List.count_append]
      simp only [idle, hidle, List.map_append, List.map_cons, List.count_append, List.count_cons]
      omega

/-- Whatever comes of returning a connection, no connection is in two places. -/
theorem StandsOnce.takenFrom (h : s.StandsOnce) {t : T} {c : Nat} {now : Rat}
    {rollback : Rollback} {done : PoolOutcome Unit} (hheld : ⟨t, c⟩ ∈ s.held)
    (hdone : Pool.Releases s.pool now c rollback done) : (s.takenFrom t c done).StandsOnce := by
  refine h.of_le (fun d => ?_) (Nat.le_refl _)
  have hcount := (perm_inUse_takenFrom hheld done).count_eq d
  rw [List.count_cons] at hcount
  simp only [places, idle_takenFrom, closed_takenFrom, List.count_append]
  rw [idle]
  cases hdone with
  | kept _ _ =>
      simp only [closedIn_rollback, closedIn_notify, closedIn_nil, List.map_append, List.map_cons,
        List.map_nil, List.count_append, List.count_cons, List.count_nil] at hcount ⊢
      omega
  | closed _ _ =>
      simp only [closedIn_rollback, closedIn_close, closedIn_notify, closedIn_nil, List.count_cons,
        List.count_nil] at hcount ⊢
      omega
  | overReleased _ _ =>
      simp only [closedIn_rollback, closedIn_nil, List.count_nil] at hcount ⊢
      omega
  | failed _ =>
      simp only [closedIn_rollback, closedIn_nil, List.count_nil] at hcount ⊢
      omega

/-- Finalizing puts no connection in two places. -/
theorem StandsOnce.finalized (h : s.StandsOnce) : (s.after .finalize).StandsOnce := by
  refine h.of_le (fun c => ?_) (Nat.le_refl _)
  have hclosing := count_closeAll s.pool s.pool.idle.reverse c
  rw [List.map_reverse, List.count_reverse] at hclosing
  have hclosed : (s.after .finalize).closed = s.closed ++ closedIn s.pool.finalize.events :=
    closedIn_append ..
  have hidle : (s.after .finalize).idle = s.pool.finalize.pool.idle.map (·.connection) := rfl
  have hinUse : (s.after .finalize).inUse = s.inUse := rfl
  rw [places, places, hclosed, hidle, hinUse, List.count_append, idle, Pool.finalize]
  omega

/-- No step puts a connection in two places. -/
theorem StandsOnce.after (h : s.StandsOnce) (hreturns : s.ReturnsOwn) {m : PoolMove T}
    (hallows : s.Allows m) : (s.after m).StandsOnce := by
  cases m with
  | enter t now refusal =>
      cases hwait : s.pool.mustWait with
      | true =>
          rw [after_enter_of_mustWait hwait]
          refine h.of_le (fun c => ?_) (Nat.le_refl _)
          rw [places, closed_asleep]
          exact Nat.le_refl _
      | false =>
          rw [after_enter_of_not_mustWait hwait]
          exact h.handedTo t (s.pool.acquires_acquire ..)
  | stir t => exact h
  | beginReturn t c => exact h
  | endReturn t c now rollback u =>
      exact h.takenFrom (hreturns t c hallows.1) (s.pool.releases_release now c rollback)
  | finalize => exact h.finalized

/-- In every run no connection is in two places. -/
theorem Reachable.standsOnce {settings : PoolSettings}
    {Admits : SharedPool T → PoolMove T → Prop} (hs : Reachable settings Admits s) :
    s.StandsOnce := by
  induction hs with
  | new => exact fun c => Nat.zero_le _
  | moved hs hallows _ ih => exact ih.after hs.returnsOwn hallows

/-! ## Returns -/

/-- What the return of a connection should leave: the connection is idle or closed, the count is
that of the idle connections and of the others in use, one notification was sent, and one of the
threads that waited, if any did, is notified. -/
structure GivesBack (s s' : SharedPool T) (c : Nat) : Prop where
  placed : c ∈ s'.idle ∨ c ∈ s'.closed
  counted : s'.IsCounted
  told : ∃ done, s'.events = s.events ++ done ∧ done.count .notify = 1
  woken : ∀ u, s.activity u = .waiting → ∃ w, s.activity w = .waiting ∧ s'.activity w = .notified

section

variable (s : SharedPool T) (t : T) (c : Nat) (done : PoolOutcome Unit) (v : Option T)

theorem idle_returned :
    ((s.takenFrom t c done).woken v).idle = done.pool.idle.map (·.connection) := rfl

theorem closed_returned :
    ((s.takenFrom t c done).woken v).closed = s.closed ++ closedIn done.events :=
  closedIn_append ..

theorem isCounted_returned : ((s.takenFrom t c done).woken v).IsCounted ↔
    done.pool.opened = done.pool.idle.length + (s.takenFrom t c done).inUse.length := by
  rw [IsCounted, idle_returned, List.length_map]
  exact Iff.rfl

end

/-- A notification finds a thread that waits, if there is one. -/
theorem notified_of_mayWake {t : T} {c : Nat} {done : PoolOutcome Unit} {v : Option T}
    (hwakes : s.MayWake done.events v) (hnotify : .notify ∈ done.events) {u : T}
    (hu : s.activity u = .waiting) :
    ∃ w, s.activity w = .waiting ∧ ((s.takenFrom t c done).woken v).activity w = .notified := by
  cases v with
  | none => exact absurd hu (hwakes hnotify u)
  | some w => exact ⟨w, hwakes.2, Function.update_self ..⟩

/-- A return that the pool completes gives the place back if the connections were counted right
before. -/
theorem givesBack_of_isCounted (hcounted : s.IsCounted) {t : T} {c : Nat} {now : Rat}
    {rollback : Rollback} {done : PoolOutcome Unit} {v : Option T} (hheld : ⟨t, c⟩ ∈ s.held)
    (hwakes : s.MayWake done.events v) (hended : ∀ kind, rollback ≠ .failed kind)
    (hdone : Pool.Releases s.pool now c rollback done) :
    GivesBack s ((s.takenFrom t c done).woken v) c := by
  have hlength := (perm_inUse_takenFrom hheld done).length_eq
  have hbefore : s.pool.opened = s.pool.idle.length + s.inUse.length := by
    rw [← length_idle]
    exact hcounted
  rw [List.length_cons] at hlength
  have hevents : ((s.takenFrom t c done).woken v).events = s.events ++ done.events := rfl
  have hcount := s.isCounted_returned t c done v
  cases hdone with
  | kept _ _ =>
      refine ⟨.inl ?_, hcount.2 ?_, ⟨_, hevents, rfl⟩, fun u => notified_of_mayWake hwakes ?_⟩
      · rw [idle_returned]
        simp
      · simp only [List.length_append, List.length_singleton]
        omega
      · simp
  | closed _ hopened =>
      refine ⟨.inr ?_, hcount.2 ?_, ⟨_, hevents, rfl⟩, fun u => notified_of_mayWake hwakes ?_⟩
      · rw [closed_returned]
        exact List.mem_append_right _ (List.mem_singleton.2 rfl)
      · dsimp only
        omega
      · simp
  | overReleased _ hopened => omega -- the connection is in use, hence counted
  | failed hfailed => exact absurd hfailed (hended _)

/-- A return that gives the place back was completed, and the connections were counted right
before it. -/
theorem isCounted_of_givesBack (honce : s.StandsOnce) {t : T} {c : Nat} {now : Rat}
    {rollback : Rollback} {done : PoolOutcome Unit} {v : Option T} (hheld : ⟨t, c⟩ ∈ s.held)
    (hdone : Pool.Releases s.pool now c rollback done)
    (hgives : GivesBack s ((s.takenFrom t c done).woken v) c) :
    (∀ kind, rollback ≠ .failed kind) ∧ s.IsCounted := by
  have hinUse : c ∈ s.inUse := List.mem_map.2 ⟨_, hheld, rfl⟩
  have hapart := honce.apart hinUse
  have hlength := (perm_inUse_takenFrom hheld done).length_eq
  rw [List.length_cons] at hlength
  have hcounted := (s.isCounted_returned t c done v).1 hgives.counted
  have hplaced := hgives.placed
  rw [idle_returned, closed_returned] at hplaced
  rw [IsCounted, length_idle]
  cases hdone with
  | kept hrollback _ =>
      simp only [List.length_append, List.length_singleton] at hcounted
      exact ⟨fun kind => by rw [hrollback]; nofun, by omega⟩
  | closed hrollback hopened =>
      dsimp only at hcounted
      refine ⟨fun kind => ?_, by omega⟩
      rcases hrollback with ⟨hdone, _⟩ | hrefused
      · rw [hdone]
        nofun
      · rw [hrefused]
        nofun
  | overReleased _ _ =>
      rw [closedIn_rollback, closedIn_nil, List.append_nil] at hplaced
      exact absurd hplaced (not_or.2 hapart)
  | failed _ =>
      rw [closedIn_rollback, closedIn_nil, List.append_nil] at hplaced
      exact absurd hplaced (not_or.2 hapart)

omit [DecidableEq T] in
/-- Where nothing in use was written off, all of it is counted. -/
theorem IsBalanced.isCounted (h : s.IsBalanced) (hkept : ∀ d ∈ s.inUse, d ∉ s.writtenOff) :
    s.IsCounted := by
  have hall : s.countedInUse = s.inUse :=
    List.filter_eq_self.2 fun d hd => by simpa using hkept d hd
  have hcounted := h.counted
  rwa [hall] at hcounted

/-- In every run, whatever was done before, the return of a connection gives its place back exactly
if rolling it back did not fail for a reason other than the database's, and the pool counted the
idle connections and those in use, no more and no less. If the rollback does fail like that, its
failure is passed on, the pool is as it was before, and the connection, which is counted, is
neither idle nor closed. The count is right in every run in which no rollback failed like that and
no connection was returned, or is in use, that was in use when the pool was finalized. -/
theorem return_gives_back_iff {settings : PoolSettings} (hs : Reachable settings IsAnyStep s)
    {t : T} {c : Nat} {now : Rat} {rollback : Rollback} {v : Option T}
    (hallows : s.Allows (.endReturn t c now rollback v)) :
    let s' := s.after (.endReturn t c now rollback v)
    (GivesBack s s' c ↔ (∀ kind, rollback ≠ .failed kind) ∧ s.IsCounted) ∧
      (∀ kind, rollback = .failed kind →
        s'.raised = s.raised ++ [.failed kind] ∧ s'.pool = s.pool ∧ c ∉ s'.idle ∧
          c ∉ s'.closed ∧ ∀ u, u ≠ t → s'.activity u = s.activity u) ∧
      (Reachable settings IsOrderlyKeeping s → (∀ d ∈ s.inUse, d ∉ s.writtenOff) →
        s.IsCounted) := by
  intro s'
  have hheld := hs.returnsOwn t c hallows.1
  have hdone := s.pool.releases_release now c rollback
  refine ⟨⟨isCounted_of_givesBack hs.standsOnce hheld hdone, ?_⟩, ?_, ?_⟩
  · rintro ⟨hended, hcounted⟩
    exact givesBack_of_isCounted hcounted hheld hallows.2 hended hdone
  · rintro kind rfl
    obtain ⟨hidle, hclosed⟩ := hs.standsOnce.apart (List.mem_map.2 ⟨_, hheld, rfl⟩)
    have hsame : s'.closed = s.closed := (s.closed_returned ..).trans (List.append_nil _)
    refine ⟨rfl, rfl, hidle, hsame ▸ hclosed, ?_⟩
    intro u hu
    -- nothing is sent that a thread could be notified by
    cases v with
    | none => exact Function.update_of_ne hu ..
    | some w => exact absurd hallows.2.1 (by simp [Pool.release])
  · intro horderly hkept
    exact horderly.isKept.toIsBalanced.isCounted hkept

/-- The second thread waits for the only connection, which the first one is about to return. -/
def returning : List (PoolMove (Fin 2)) := replacing.take 3

/-- The database refuses to roll the connection back. It is closed, and the thread that waits is
notified. -/
theorem return_gives_back_refused :
    ∃ s : SharedPool (Fin 2), Reachable single IsAnyStep s ∧
      s.Allows (.endReturn 0 0 1 .refused (some 1)) ∧
      GivesBack s (s.after (.endReturn 0 0 1 .refused (some 1))) 0 := by
  have hs : Reachable single IsAnyStep ((fresh single).afterAll returning) :=
    Reachable.new.afterAll (by decide)
  have hallows : ((fresh single).afterAll returning).Allows
    (.endReturn 0 0 1 .refused (some 1)) := by decide
  exact ⟨_, hs, hallows, (return_gives_back_iff hs hallows).1.2 ⟨nofun, by decide⟩⟩

/-- A server that has something to say about a rollback. -/
def remarkingServer : ScriptedSession where
  responses :=
    [(Connection.rollbackStatement, {
        playback := { messages := [⟨8153, 1, 10, "Null value is eliminated", "", "", 0⟩] } })]

/-- A connection to that server that raises warnings. -/
def remarking : Connection ScriptedSession :=
  ({ escalation := .bool true } : ConnectionOptions).connection remarkingServer

/-- A connection that raises warnings is rolled back with a remark of the server. Its place in the
pool is lost: the connection is neither idle nor closed, it is counted though nothing is in use,
and the thread that waits is not told. -/
theorem place_lost_remarking :
    EndsAs remarking (.failed "Warning") ∧
      ∃ s : SharedPool (Fin 2), Reachable single IsAnyStep s ∧
        s.Allows (.endReturn 0 0 1 (.failed "Warning") none) ∧
        (let s' := s.after (.endReturn 0 0 1 (.failed "Warning") none)
        ¬ GivesBack s s' 0 ∧ s'.idle = [] ∧ s'.closed = [] ∧ s'.inUse = [] ∧
          s'.pool.opened = 1 ∧ s'.activity 1 = .waiting) := by
  have hs : Reachable single IsAnyStep ((fresh single).afterAll returning) :=
    Reachable.new.afterAll (by decide)
  refine ⟨?_, _, hs, by decide, ?_, by decide, by decide, by decide, by decide, by decide⟩
  · have hraises : (match Connection.rollback remarking with
        | .error (.warning _) _ => true
        | _ => false) = true := by decide +kernel
    split at hraises
    next w c' h => exact .failed h ⟨nofun, nofun⟩
    · cases hraises
  · rintro ⟨hplaced, -, -, -⟩
    revert hplaced
    decide

end SharedPool

end TdsClient
