import Mathlib.Logic.Relation
import TdsClient.Connection.Action
import TdsClient.Proofs.Connection.Journal

/-!
# What a connection can do

Every operation on a connection and its cursors is made of a few kinds of
moves. A move says what changes and when it is allowed: a request is only
submitted by whoever holds the connection, a row is only fetched for a
cursor that has a result set, and so on. What every move keeps is kept by
every run, whichever operations it is made of and however they end.

## Main definitions

* `Move` — the moves, each with its condition.
* `Moves` — any number of them.

## Main results

* `stateOf_begun`, `recordIn_begun` — what a new statement leaves of a cursor.
* `Moves.keep` — what every move keeps holds after any number of them.
-/

namespace TdsClient

/-- Whether a delivery says that the session is lost. -/
def Delivery.isLost {α : Type} (d : Delivery α) : Bool :=
  match d.result with
  | .error (.lost ..) => true
  | _ => false

namespace Connection

open Cursor Journal

variable {σ α : Type}

/-- How far a cursor is. -/
def stateOf (c : Connection σ) (k : Cursor) : CursorState := (k.recordIn c).state

/-- Whether a cursor exists. -/
def Has (c : Connection σ) (k : Cursor) : Prop := k.index < c.cursors.length

/-- A cursor that was not closed. -/
def IsOpen (c : Connection σ) (k : Cursor) : Prop := c.Has k ∧ c.stateOf k ≠ .closed

/-- A cursor that began the current statement and has no response to read. -/
def IsIdle (c : Connection σ) (k : Cursor) : Prop :=
  c.Has k ∧ c.active = some k.index ∧ (c.stateOf k = .unused ∨ c.stateOf k = .exhausted)

/-- A cursor whose request is the one submitted last. -/
def HasSent (c : Connection σ) (k : Cursor) : Prop :=
  c.IsIdle k ∧ lastSubmitter c.journal = some (some k.index)

/-- A cursor that reads the response to its request. -/
def IsReader (c : Connection σ) (k : Cursor) : Prop :=
  c.Has k ∧ c.active = some k.index ∧ isReading (c.stateOf k) = true

/-- A cursor with a result set. -/
def HasRows (c : Connection σ) (k : Cursor) : Prop :=
  c.Has k ∧ c.active = some k.index ∧ c.stateOf k = .hasResults

/-- Who may read results: a cursor that reads a response, or the connection itself if no cursor is
active. -/
def MayRead (c : Connection σ) : Option Cursor → Prop
  | some k => c.IsReader k
  | none => c.active = none

/-- Who may read rows. -/
def MayFetch (c : Connection σ) : Option Cursor → Prop
  | some k => c.HasRows k
  | none => c.active = none

/-- Who may submit a request. -/
def MaySubmit (c : Connection σ) : Option Cursor → Prop
  | some k => c.IsIdle k
  | none => c.active = none

/-- Who may begin a statement. -/
def MayBegin (c : Connection σ) : Option Cursor → Prop
  | some k => c.IsOpen k
  | none => True

/-- The connection after its session was used, with what the session delivered. -/
def absorbed (c : Connection σ) (used : Delivery α × σ) : Connection σ :=
  { c.received used.2 used.1.messages with isDead := c.isDead || used.1.isLost }

/-- The connection with a request noted in its journal. -/
def noted (c : Connection σ) (owner : Option Nat) (r : Request) : Connection σ :=
  { c with journal := c.journal ++ [.submitted owner r] }

/-- A change of what a cursor knows. -/
def changed (c : Connection σ) (k : Cursor) (f : CursorRecord → CursorRecord) : Connection σ :=
  c.modifyCursor k.index f

/-! ## What a cursor knows after a change -/

theorem eq_of_index {j k : Cursor} (h : j.index = k.index) : j = k := by
  cases j
  cases k
  exact congrArg Cursor.mk h

@[simp]
theorem has_modifyCursor (c : Connection σ) (i : Nat) (f : CursorRecord → CursorRecord)
    (k : Cursor) : (c.modifyCursor i f).Has k ↔ c.Has k := by
  unfold Has modifyCursor
  rw [List.length_modify]

/-- A change of a cursor is there afterwards. -/
theorem recordIn_modifyCursor_self {c : Connection σ} {k : Cursor} (hk : c.Has k)
    (f : CursorRecord → CursorRecord) :
    k.recordIn (c.modifyCursor k.index f) = f (k.recordIn c) := by
  unfold Has at hk
  unfold Cursor.recordIn modifyCursor
  rw [List.getElem?_modify, List.getElem?_eq_getElem hk]
  simp

/-- A change of another cursor makes no difference. -/
theorem recordIn_modifyCursor_of_ne (c : Connection σ) {i : Nat} {k : Cursor} (hi : i ≠ k.index)
    (f : CursorRecord → CursorRecord) : k.recordIn (c.modifyCursor i f) = k.recordIn c := by
  unfold Cursor.recordIn modifyCursor
  rw [List.getElem?_modify]
  simp [hi]

/-- What a cursor knows after a change is what it knew, or was changed. -/
theorem recordIn_modifyCursor_or (c : Connection σ) (i : Nat) (k : Cursor)
    (f : CursorRecord → CursorRecord) :
    k.recordIn (c.modifyCursor i f) = k.recordIn c ∨
      i = k.index ∧ k.recordIn (c.modifyCursor i f) = f (k.recordIn c) := by
  by_cases hi : i = k.index
  · subst hi
    by_cases hk : c.Has k
    · exact .inr ⟨rfl, recordIn_modifyCursor_self hk f⟩
    · left
      unfold Has at hk
      unfold Cursor.recordIn modifyCursor
      rw [List.getElem?_eq_none (by simpa using hk), List.getElem?_eq_none (by simpa using hk)]
  · exact .inl (recordIn_modifyCursor_of_ne c hi f)

/-- What a change of some cursor leaves alone is as it was. -/
theorem recordIn_modifyCursor {β : Type} (c : Connection σ) (i : Nat) (k : Cursor)
    {f : CursorRecord → CursorRecord} (field : CursorRecord → β)
    (hf : ∀ r, field (f r) = field r) :
    field (k.recordIn (c.modifyCursor i f)) = field (k.recordIn c) := by
  rcases recordIn_modifyCursor_or c i k f with hsame | ⟨_, hchanged⟩
  · rw [hsame]
  · rw [hchanged, hf]

theorem state_detach (r : CursorRecord) :
    r.detach.state = if r.state = .closed then .closed else .unused := by
  unfold CursorRecord.detach
  by_cases hclosed : r.state = .closed
  · rw [if_pos hclosed, if_pos hclosed, hclosed]
  · rw [if_neg hclosed, if_neg hclosed]
    rfl

/-- What holds of the record of a cursor still holds when another statement begins, if messages do
not matter for it and results may be lost. -/
theorem recordIn_begun {P : CursorRecord → Prop}
    (hmessages : ∀ r ms, P r → P { r with messages := ms }) (hdetach : ∀ r, P r → P r.detach)
    {c : Connection σ} (i : Option Nat) {k : Cursor} (h : P (k.recordIn c)) :
    P (k.recordIn (c.begun i)) := by
  have hmodify? : ∀ (d : Connection σ) (j : Option Nat) (f : CursorRecord → CursorRecord),
      (∀ r, P r → P (f r)) → P (k.recordIn d) → P (k.recordIn (d.modifyCursor? j f)) := by
    intro d j f hf hd
    cases j with
    | none => exact hd
    | some j =>
        show P (k.recordIn (d.modifyCursor j f))
        rcases recordIn_modifyCursor_or d j k f with hsame | ⟨_, hchanged⟩
        · rw [hsame]
          exact hd
        · rw [hchanged]
          exact hf _ hd
  have hkept := hmodify? c c.listener _ (fun r => hmessages r c.messages) h
  unfold begun
  generalize (c.modifyCursor? c.listener fun r => { r with messages := c.messages }) = kept
    at hkept ⊢
  show P (k.recordIn (if c.active = i then kept
    else kept.modifyCursor? c.active CursorRecord.detach))
  by_cases hactive : c.active = i
  · rw [if_pos hactive]
    exact hkept
  · rw [if_neg hactive]
    exact hmodify? _ c.active _ hdetach hkept

@[simp]
theorem has_begun (c : Connection σ) (i : Option Nat) (k : Cursor) :
    (c.begun i).Has k ↔ c.Has k := by
  have hmodify? : ∀ (d : Connection σ) (j : Option Nat) (f : CursorRecord → CursorRecord),
      (d.modifyCursor? j f).Has k ↔ d.Has k := by
    intro d j f
    cases j with
    | none => exact Iff.rfl
    | some j => exact has_modifyCursor d j f k
  unfold begun
  by_cases hactive : c.active = i
  · simpa [hactive, Has] using hmodify? c c.listener _
  · simpa [hactive, Has] using (hmodify? _ c.active _).trans (hmodify? c c.listener _)

/-- The cursor that was active before another statement begins loses its results. -/
theorem stateOf_begun {c : Connection σ} (i : Option Nat) {k : Cursor} (hk : c.Has k) :
    (c.begun i).stateOf k =
      if c.active = some k.index ∧ c.active ≠ i ∧ c.stateOf k ≠ .closed then .unused
      else c.stateOf k := by
  have hkept : (c.modifyCursor? c.listener fun r => { r with messages := c.messages }).stateOf k =
      c.stateOf k := by
    cases c.listener with
    | none => rfl
    | some j => exact recordIn_modifyCursor c j k (·.state) fun _ => rfl
  have hhas : (c.modifyCursor? c.listener fun r => { r with messages := c.messages }).Has k := by
    cases c.listener with
    | none => exact hk
    | some j => exact (has_modifyCursor c j _ k).2 hk
  unfold begun
  rw [← hkept]
  generalize (c.modifyCursor? c.listener fun r => { r with messages := c.messages }) = kept
    at hhas ⊢
  show (if c.active = i then kept
    else kept.modifyCursor? c.active CursorRecord.detach).stateOf k = _
  by_cases hactive : c.active = i
  · rw [if_pos hactive, if_neg fun h => h.2.1 hactive]
  · rw [if_neg hactive]
    cases hholder : c.active with
    | none =>
        rw [if_neg fun h => nomatch h.1]
        rfl
    | some j =>
        show (k.recordIn (kept.modifyCursor j CursorRecord.detach)).state = _
        by_cases hj : j = k.index
        · subst hj
          rw [recordIn_modifyCursor_self hhas, state_detach]
          unfold stateOf
          by_cases hclosed : (k.recordIn kept).state = .closed
          · rw [if_pos hclosed, if_neg fun h => h.2.2 hclosed, hclosed]
          · rw [if_neg hclosed, if_pos ⟨rfl, hholder ▸ hactive, hclosed⟩]
        · rw [recordIn_modifyCursor_of_ne kept hj, if_neg fun h => hj (Option.some.inj h.1)]
          rfl

/-! ## The moves -/

variable [Session σ]

/-- A step of an operation. -/
inductive Move : Connection σ → Connection σ → Prop
  -- statements
  | opened {c} (husable : c.fault? = none) : Move c { c with cursors := c.cursors ++ [{}] }
  | began {c} (owner : Option Cursor) (husable : c.fault? = none) (howner : c.MayBegin owner) :
      Move c (c.begun (owner.map (·.index)))
  -- uses of the session
  | submitted {c} (owner : Option Cursor) (r : Request) (husable : c.fault? = none)
      (howner : c.MaySubmit owner) :
      Move c ((c.noted (owner.map (·.index)) r).absorbed (ask r c.session))
  | advanced {c} (reader : Option Cursor) (husable : c.fault? = none)
      (hreader : c.MayRead reader) : Move c (c.absorbed (Session.nextResult c.session))
  | fetched {c} (reader : Option Cursor) (husable : c.fault? = none)
      (hreader : c.MayFetch reader) : Move c (c.absorbed (Session.fetchRow c.session))
  | copied {c} (columns : List Column) (declarations : List String) (rows : List (List Value))
      (husable : c.fault? = none) (howner : lastSubmitter c.journal = some none) :
      Move c (c.absorbed (Session.bulkCopy columns declarations rows c.session))
  -- what a cursor knows
  | prepared {c} (k : Cursor) (hk : c.IsOpen k) (hactive : c.active = some k.index) :
      Move c (c.changed k (·.begin))
  | sent {c} (k : Cursor) (reliable : Bool) (hk : c.HasSent k) :
      Move c (c.changed k fun r => { r with state := .executing, rowCountReliable := reliable })
  | reached {c} (k : Cursor) (columns : List Column) (hk : c.IsReader k) :
      Move c (c.changed k (·.reach columns))
  | finished {c} (k : Cursor) (count : Int) (value : Option Int) (hk : c.IsReader k) :
      Move c (c.changed k (·.finish count value))
  | counted {c} (k : Cursor) (count : Int) (hk : c.IsReader k) :
      Move c (c.changed k fun r => { r with rowCount := count })
  | rowRead {c} (k : Cursor) (hk : c.HasRows k) : Move c (c.changed k (·.countRow))
  | unnumbered {c} (k : Cursor) (hk : c.HasRows k) :
      Move c (c.changed k fun r => { r with rowNumber := none })
  | totalled {c} (k : Cursor) (count : Int) (reliable : Bool) (hk : c.IsIdle k) :
      Move c (c.changed k fun r => { r with rowCount := count, rowCountReliable := reliable })
  | failed {c} (k : Cursor) (hk : c.IsOpen k) : Move c (c.changed k (·.reset .unused))
  | shut {c} (k : Cursor) (hk : c.IsOpen k) : Move c (c.changed k (·.reset .closed))
  | released {c} (k : Cursor) (hk : c.stateOf k = .closed) : Move c (c.release k.index)
  | sized {c} (k : Cursor) (n : Int) : Move c (c.changed k fun r => { r with arraySize := n })
  -- warnings and settings
  | warned {c} (text : String) : Move c (c.heard [.ofClient text])
  | issued {c} (w : Warning) (hcalm : c.escalates = false) :
      Move c { c with issued := c.issued ++ [w] }
  | modeSet {c} (value : Value) (husable : c.active = none) :
      Move c { c with autocommitMode := value }
  | timeoutSet {c} (n : Int) (husable : c.fault? = none) :
      Move c { c with session := Session.setTimeout n c.session, timeout := .int n }
  | escalationSet {c} (value : Value) : Move c { c with escalation := value }
  | closed {c} (hopen : c.isOpen = true) : Move c c.closed

/-- Any number of steps. -/
abbrev Moves : Connection σ → Connection σ → Prop := Relation.ReflTransGen Move

/-- What every step keeps is kept. -/
theorem Moves.keep {P : Connection σ → Prop} (hmove : ∀ c c' : Connection σ, Move c c' → P c → P c')
    {c c' : Connection σ} (h : Moves c c') (hc : P c) : P c' := by
  induction h with
  | refl => exact hc
  | tail _ hlast ih => exact hmove _ _ hlast ih

end Connection

end TdsClient
