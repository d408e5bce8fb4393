import Mathlib.Logic.Relation
import TdsClient.Connection.Basic

/-!
# What operations do

An operation returns a result or raises an error, and in both cases leaves
a connection. `Meets pre op post fail` says what holds there: started where
`pre` holds, `post` holds of the result and the connection, or `fail` of the
error and the connection. There is a rule for each way to put operations
together, so a judgement on an operation is assembled from those on its
parts.

An operation also changes the connection in small steps, and may raise an
error after any of them. `Walks step pre op post fail` says in addition that
it gets from where it started to where it ended by steps. Whatever every
step keeps is kept by the whole operation, no matter how it ends; this is
the use that is made of it.

## Main definitions

* `Meets` — what holds where an operation ends.
* `Walks` — this, and that it gets there by steps.
* `Gives`, `Succeeds` — if there is a result, and that there is one.

## Main results

* `Meets.bind`, `Meets.catching`, `Meets.looping` — operations put together.
* `walks_iff` — walks as judgements from every earlier point.
* `Walks.after` — the connection after an operation is reached by steps.
-/

namespace TdsClient.Op

open Relation

variable {σ α β : Type}

/-- Where an operation ended, `post` holds of its result, or `fail` of the error it raised. -/
def Ends (post : α → Connection σ → Prop) (fail : Error → Connection σ → Prop) :
    EStateM.Result Error (Connection σ) α → Prop
  | .ok a c => post a c
  | .error e c => fail e c

/-- Started where `pre` holds, the operation ends where `post` holds of its result, or `fail` of
the error it raises. -/
def Meets (pre : Connection σ → Prop) (op : Op σ α) (post : α → Connection σ → Prop)
    (fail : Error → Connection σ → Prop) : Prop :=
  ∀ c, pre c → Ends post fail (op c)

namespace Meets

variable {pre : Connection σ → Prop} {op : Op σ α} {post : α → Connection σ → Prop}
  {fail : Error → Connection σ → Prop}

/-- A weaker judgement. -/
theorem weaken {pre' : Connection σ → Prop} {post' : α → Connection σ → Prop}
    {fail' : Error → Connection σ → Prop} (h : Meets pre op post fail)
    (hpre : ∀ c, pre' c → pre c) (hpost : ∀ a c, post a c → post' a c)
    (hfail : ∀ e c, fail e c → fail' e c) : Meets pre' op post' fail' := by
  intro c hc
  have hends := h c (hpre c hc)
  cases heq : op c with
  | ok a d =>
      rw [heq] at hends
      exact hpost a d hends
  | error e d =>
      rw [heq] at hends
      exact hfail e d hends

/-- A judgement from a stronger condition at the start. -/
theorem strengthen {pre' : Connection σ → Prop} (h : Meets pre op post fail)
    (hpre : ∀ c, pre' c → pre c) : Meets pre' op post fail :=
  fun c hc => h c (hpre c hc)

/-- A judgement with a weaker condition where an error was raised. -/
theorem failing {fail' : Error → Connection σ → Prop} (h : Meets pre op post fail)
    (hfail : ∀ e c, fail e c → fail' e c) : Meets pre op post fail' :=
  h.weaken (fun _ hc => hc) (fun _ _ hp => hp) hfail

/-- Two judgements at once. -/
theorem and {pre' : Connection σ → Prop} {post' : α → Connection σ → Prop}
    {fail' : Error → Connection σ → Prop} (h : Meets pre op post fail)
    (h' : Meets pre' op post' fail') :
    Meets (fun c => pre c ∧ pre' c) op (fun a c => post a c ∧ post' a c)
      fun e c => fail e c ∧ fail' e c := by
  intro c hc
  have hends := h c hc.1
  have hends' := h' c hc.2
  cases heq : op c with
  | ok a d =>
      rw [heq] at hends hends'
      exact ⟨hends, hends'⟩
  | error e d =>
      rw [heq] at hends hends'
      exact ⟨hends, hends'⟩

/-! ## Operations without parts -/

theorem pure {a : α} (h : ∀ c, pre c → post a c) : Meets pre (Pure.pure a) post fail :=
  fun c hc => h c hc

theorem throwing {e : Error} (h : ∀ c, pre c → fail e c) :
    Meets pre (throw e : Op σ α) post fail :=
  fun c hc => h c hc

/-- A result that does not depend on the connection is there, or an error is. -/
theorem ofExcept {result : Except Error α} (h : ∀ a c, result = .ok a → pre c → post a c)
    (hfail : ∀ e c, result = .error e → pre c → fail e c) :
    Meets pre (Op.ofExcept result) post fail := by
  intro c hc
  cases result with
  | ok a => exact h a c rfl hc
  | error e => exact hfail e c rfl hc

theorem modifying {f : Connection σ → Connection σ} {post : Unit → Connection σ → Prop}
    (h : ∀ c, pre c → post () (f c)) : Meets pre (modify f) post fail :=
  fun c hc => h c hc

/-- Nothing is changed by a look at the connection. -/
theorem looking {f : Connection σ → α} (h : ∀ c, pre c → post (f c) c) :
    Meets pre (fun c => .ok (f c) c) post fail :=
  fun c hc => h c hc

/-! ## Operations with parts -/

/-- An operation after another one. -/
protected theorem bind {x : Op σ α} {f : α → Op σ β} {post : β → Connection σ → Prop}
    {Q : α → Connection σ → Prop} (hx : Meets pre x Q fail)
    (hf : ∀ a, Meets (Q a) (f a) post fail) : Meets pre (x >>= f) post fail := by
  intro c hc
  have hends := hx c hc
  show Ends post fail (EStateM.bind x f c)
  unfold EStateM.bind
  cases hxc : x c with
  | error e d =>
      rw [hxc] at hends
      exact hends
  | ok a d =>
      rw [hxc] at hends
      exact hf a d hends

/-- An operation after a look at the connection. -/
theorem afterLook {f : Connection σ → α} {g : α → Op σ β} {post : β → Connection σ → Prop}
    (h : ∀ a, Meets (fun c => pre c ∧ a = f c) (g a) post fail) :
    Meets pre ((fun c => .ok (f c) c : Op σ α) >>= g) post fail :=
  .bind (Q := fun a c => pre c ∧ a = f c) (looking fun _ hc => ⟨hc, rfl⟩) h

/-- An operation after a look at the whole connection. -/
theorem afterGet {g : Connection σ → Op σ β} {post : β → Connection σ → Prop}
    (h : ∀ d, Meets (fun c => pre c ∧ d = c) (g d) post fail) :
    Meets pre (get >>= g) post fail :=
  afterLook (f := id) h

/-- An operation with what is done if it raises. -/
theorem catching {handle : Error → Op σ α} {mid : Error → Connection σ → Prop}
    (hop : Meets pre op post mid) (hhandle : ∀ e, Meets (mid e) (handle e) post fail) :
    Meets pre (tryCatch op handle) post fail := by
  intro c hc
  have hends := hop c hc
  show Ends post fail (EStateM.tryCatch op handle c)
  unfold EStateM.tryCatch
  cases hopc : op c with
  | ok a d =>
      rw [hopc] at hends
      exact hends
  | error e d =>
      rw [hopc] at hends
      exact hhandle e d hends

/-- A loop whose step keeps an invariant `I`. -/
theorem looping [Session σ] {body : β → Op σ (ForInStep β)} {consumes : Consumes body}
    {I post : β → Connection σ → Prop}
    (h : ∀ b, Meets (I b) (body b)
      (fun r c => match r with
        | .done b => post b c
        | .yield b => I b c) fail) (b : β) :
    Meets (I b) (loop body consumes b) post fail := by
  intro c hc
  -- The induction is on what is left of the response, as the recursion of the loop is.
  induction hn : Session.remaining c.session using Nat.strongRecOn generalizing b c with
  | ind n ih =>
      have hbody := h b c hc
      rw [loop]
      split
      next d c' heq =>
          rw [heq] at hbody
          exact hbody
      next d c' heq =>
          rw [heq] at hbody
          have hless := consumes b c d c' heq
          exact ih _ (hn ▸ hless) d c' hbody rfl
      next e c' heq =>
          rw [heq] at hbody
          exact hbody

/-- A loop whose step keeps one condition. -/
theorem repeating [Session σ] {body : β → Op σ (ForInStep β)} {consumes : Consumes body}
    (h : ∀ b, Meets pre (body b) (fun _ => pre) fail) (b : β) :
    Meets pre (loop body consumes b) (fun _ => pre) fail := by
  refine looping (I := fun _ => pre) (fun b => ?_) b
  refine (h b).weaken (fun _ hc => hc) (fun r c hc => ?_) fun _ _ hc => hc
  cases r with
  | done b => exact hc
  | yield b => exact hc

end Meets

/-! ## Steps -/

/-- An operation that started from `c` has got by steps to where it ended, and there `post` holds
of its result, or `fail` if it raised. -/
def Ended (step : Connection σ → Connection σ → Prop) (post : α → Connection σ → Prop)
    (fail : Connection σ → Prop) (c : Connection σ) :
    EStateM.Result Error (Connection σ) α → Prop :=
  Ends (fun a c' => ReflTransGen step c c' ∧ post a c') fun _ c' => ReflTransGen step c c' ∧ fail c'

/-- Started where `pre` holds, the operation gets by steps to where it ends, and there `post`
holds of its result, or `fail` if it raises. -/
def Walks (step : Connection σ → Connection σ → Prop) (pre : Connection σ → Prop) (op : Op σ α)
    (post : α → Connection σ → Prop) (fail : Connection σ → Prop) : Prop :=
  ∀ c, pre c → Ended step post fail c (op c)

variable {step : Connection σ → Connection σ → Prop} {pre mid fail : Connection σ → Prop}
  {post : α → Connection σ → Prop} {op : Op σ α}

/-- What ends after some steps more. -/
theorem Ended.after_steps {c d : Connection σ} {r : EStateM.Result Error (Connection σ) α}
    (hsteps : ReflTransGen step c d) (h : Ended step post fail d r) :
    Ended step post fail c r := by
  cases r with
  | ok a c' => exact ⟨hsteps.trans h.1, h.2⟩
  | error e c' => exact ⟨hsteps.trans h.1, h.2⟩

/-- What ends with weaker conditions. -/
theorem Ended.weaken {c : Connection σ} {r : EStateM.Result Error (Connection σ) α}
    {fail' : Connection σ → Prop} {post' : α → Connection σ → Prop}
    (h : Ended step post fail c r) (hpost : ∀ a c, post a c → post' a c)
    (hfail : ∀ c, fail c → fail' c) : Ended step post' fail' c r := by
  cases r with
  | ok a c' => exact ⟨h.1, hpost a c' h.2⟩
  | error e c' => exact ⟨h.1, hfail c' h.2⟩

/-- An operation walks if, from wherever steps had led before, it only leads on by steps. -/
theorem walks_iff : Walks step pre op post fail ↔ ∀ d,
    Meets (fun c => ReflTransGen step d c ∧ pre c) op
      (fun a c => ReflTransGen step d c ∧ post a c) fun _ c => ReflTransGen step d c ∧ fail c := by
  constructor
  · intro h d c hc
    exact (h c hc.2).after_steps hc.1
  · intro h c hc
    exact h c c ⟨.refl, hc⟩

namespace Walks

/-- What holds where the operation ends, steps aside. -/
theorem meets (h : Walks step pre op post fail) : Meets pre op post fun _ => fail := by
  intro c hc
  have hended := h c hc
  cases hop : op c with
  | ok a d =>
      rw [hop] at hended
      exact hended.2
  | error e d =>
      rw [hop] at hended
      exact hended.2

/-- A weaker judgement. -/
theorem weaken {pre' fail' : Connection σ → Prop} {post' : α → Connection σ → Prop}
    (h : Walks step pre op post fail) (hpre : ∀ c, pre' c → pre c)
    (hpost : ∀ a c, post a c → post' a c) (hfail : ∀ c, fail c → fail' c) :
    Walks step pre' op post' fail' :=
  fun c hc => (h c (hpre c hc)).weaken hpost hfail

/-- A judgement from a stronger condition at the start. -/
theorem strengthen {pre' : Connection σ → Prop} (h : Walks step pre op post fail)
    (hpre : ∀ c, pre' c → pre c) : Walks step pre' op post fail :=
  h.weaken hpre (fun _ _ hp => hp) (fun _ hf => hf)

/-- A judgement with a weaker condition where an error was raised. -/
theorem failing {fail' : Connection σ → Prop} (h : Walks step pre op post fail)
    (hfail : ∀ c, fail c → fail' c) : Walks step pre op post fail' :=
  h.weaken (fun _ hc => hc) (fun _ _ hp => hp) hfail

/-- The connection after an operation is reached by steps, and what holds of it at both ends
holds there. -/
theorem after {Q : Connection σ → Prop} (h : Walks step pre op (fun _ => Q) Q) {c : Connection σ}
    (hc : pre c) : ReflTransGen step c (op.after c) ∧ Q (op.after c) := by
  have hended := h c hc
  unfold Op.after
  cases heq : op c with
  | ok a c' =>
      rw [heq] at hended
      exact hended
  | error e c' =>
      rw [heq] at hended
      exact hended

/-! ## Operations without parts -/

theorem pure {a : α} (h : ∀ c, pre c → post a c) : Walks step pre (Pure.pure a) post fail :=
  fun c hc => ⟨.refl, h c hc⟩

theorem throwing {e : Error} (h : ∀ c, pre c → fail c) :
    Walks step pre (throw e : Op σ α) post fail :=
  fun c hc => ⟨.refl, h c hc⟩

/-- A result that does not depend on the connection is there, or an error is. -/
theorem ofExcept {result : Except Error α} (h : ∀ a c, result = .ok a → pre c → post a c)
    (hfail : ∀ c, pre c → fail c) : Walks step pre (Op.ofExcept result) post fail :=
  walks_iff.2 fun _ => .ofExcept (fun a c ha hc => ⟨hc.1, h a c ha hc.2⟩) fun _ c _ hc =>
    ⟨hc.1, hfail c hc.2⟩

/-- A change of the connection is a step. -/
theorem modifying {f : Connection σ → Connection σ} {post : Unit → Connection σ → Prop}
    (hstep : ∀ c, pre c → step c (f c)) (h : ∀ c, pre c → post () (f c)) :
    Walks step pre (modify f) post fail :=
  fun c hc => ⟨.single (hstep c hc), h c hc⟩

/-- Nothing is changed by a look at the connection. -/
theorem looking {f : Connection σ → α} (h : ∀ c, pre c → post (f c) c) :
    Walks step pre (fun c => .ok (f c) c) post fail :=
  fun c hc => ⟨.refl, h c hc⟩

/-! ## Operations with parts -/

/-- An operation after another one. -/
protected theorem bind {x : Op σ α} {f : α → Op σ β} {post : β → Connection σ → Prop}
    {Q : α → Connection σ → Prop} (hx : Walks step pre x Q fail)
    (hf : ∀ a, Walks step (Q a) (f a) post fail) : Walks step pre (x >>= f) post fail :=
  walks_iff.2 fun d => .bind (walks_iff.1 hx d) fun a => walks_iff.1 (hf a) d

/-- An operation after a look at the connection. -/
theorem afterLook {f : Connection σ → α} {g : α → Op σ β} {post : β → Connection σ → Prop}
    (h : ∀ a, Walks step (fun c => pre c ∧ a = f c) (g a) post fail) :
    Walks step pre ((fun c => .ok (f c) c : Op σ α) >>= g) post fail :=
  .bind (Q := fun a c => pre c ∧ a = f c) (looking fun _ hc => ⟨hc, rfl⟩) h

/-- An operation after a look at the whole connection. -/
theorem afterGet {g : Connection σ → Op σ β} {post : β → Connection σ → Prop}
    (h : ∀ d, Walks step (fun c => pre c ∧ d = c) (g d) post fail) :
    Walks step pre (get >>= g) post fail :=
  afterLook (f := id) h

/-- An operation with what is done if it raises. -/
theorem catching {handle : Error → Op σ α} (hop : Walks step pre op post mid)
    (hhandle : ∀ e, Walks step mid (handle e) post fail) :
    Walks step pre (tryCatch op handle) post fail :=
  walks_iff.2 fun d => .catching (walks_iff.1 hop d) fun e => walks_iff.1 (hhandle e) d

/-- A loop whose step keeps an invariant `I`. -/
theorem looping [Session σ] {body : β → Op σ (ForInStep β)} {consumes : Consumes body}
    {I post : β → Connection σ → Prop}
    (h : ∀ b, Walks step (I b) (body b)
      (fun r c => match r with
        | .done b => post b c
        | .yield b => I b c) fail) (b : β) :
    Walks step (I b) (loop body consumes b) post fail := by
  refine walks_iff.2 fun d =>
    .looping (I := fun b c => ReflTransGen step d c ∧ I b c) (fun b => ?_) b
  refine (walks_iff.1 (h b) d).weaken (fun _ hc => hc) (fun r c hc => ?_) fun _ _ hc => hc
  cases r with
  | done b => exact hc
  | yield b => exact hc

/-- A loop whose step keeps one condition. -/
theorem repeating [Session σ] {body : β → Op σ (ForInStep β)} {consumes : Consumes body}
    (h : ∀ b, Walks step pre (body b) (fun _ => pre) fail) (b : β) :
    Walks step pre (loop body consumes b) (fun _ => pre) fail :=
  walks_iff.2 fun d => .repeating (fun b => walks_iff.1 (h b) d) b

end Walks

/-! ## Results -/

/-- Whatever the operation does, if it returns a result then `post` holds. -/
abbrev Gives (pre : Connection σ → Prop) (op : Op σ α) (post : α → Connection σ → Prop) : Prop :=
  Meets pre op post fun _ _ => True

theorem gives_iff {pre : Connection σ → Prop} {op : Op σ α} {post : α → Connection σ → Prop} :
    Gives pre op post ↔ ∀ c a c', pre c → op c = .ok a c' → post a c' := by
  constructor
  · intro h c a c' hc hop
    have hends := h c hc
    rw [hop] at hends
    exact hends
  · intro h c hc
    cases hop : op c with
    | ok a c' => exact h c a c' hc hop
    | error e c' => exact trivial

theorem gives_anything {pre : Connection σ → Prop} {op : Op σ α} :
    Gives pre op fun _ _ => True :=
  gives_iff.2 fun _ _ _ _ _ => trivial

theorem Walks.gives (h : Walks step pre op post fail) : Gives pre op post :=
  h.meets.failing fun _ _ _ => trivial

/-- Whether an operation returns a result. -/
def returns (op : Op σ α) (c : Connection σ) : Bool :=
  match op c with
  | .ok _ _ => true
  | .error _ _ => false

theorem returns_iff {op : Op σ Unit} {c : Connection σ} :
    op.returns c = true ↔ op c = .ok () (op.after c) := by
  unfold returns after
  cases op c <;> simp

/-- After an error nothing else is done. -/
theorem bind_of_error {x : Op σ α} (f : α → Op σ β) {c c' : Connection σ} {e : Error}
    (h : x c = .error e c') : (x >>= f) c = .error e c' := by
  show EStateM.bind x f c = _
  unfold EStateM.bind
  rw [h]

/-- After a result the rest is done. -/
theorem bind_of_ok {x : Op σ α} (f : α → Op σ β) {c c' : Connection σ} {a : α}
    (h : x c = .ok a c') : (x >>= f) c = f a c' := by
  show EStateM.bind x f c = _
  unfold EStateM.bind
  rw [h]

/-- The operation returns a result, and then `post` holds. -/
abbrev Succeeds (pre : Connection σ → Prop) (op : Op σ α) (post : α → Connection σ → Prop) : Prop :=
  Meets pre op post fun _ _ => False

theorem succeeds_iff {pre : Connection σ → Prop} {op : Op σ α} {post : α → Connection σ → Prop} :
    Succeeds pre op post ↔ ∀ c, pre c → ∃ a c', op c = .ok a c' ∧ post a c' := by
  constructor
  · intro h c hc
    have hends := h c hc
    cases hop : op c with
    | ok a c' =>
        rw [hop] at hends
        exact ⟨a, c', rfl, hends⟩
    | error e c' =>
        rw [hop] at hends
        exact hends.elim
  · intro h c hc
    obtain ⟨a, c', hop, hpost⟩ := h c hc
    rw [hop]
    exact hpost

end TdsClient.Op
