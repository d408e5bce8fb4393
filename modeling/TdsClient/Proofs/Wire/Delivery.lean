import Mathlib.Data.List.DropRight
import Mathlib.Data.List.Nodup
import TdsClient.Wire.Adapter
import TdsClient.Wire.Script

/-!
# Messages are delivered once

The protocol keeps its messages in a list. During an operation it may put
messages at the end of the list, and then take some back from the end, also
such as it had put there long before; a request empties the list. What a
session knows of this is the length that the list had.

That is enough. A message that is still in the list when the operation ends
during which it arrived is delivered then, and at no other time. It does not
matter whether operations succeed, nor how many messages are taken back. To
say so two equal messages that arrive must be told apart, and so the list is
followed with a note of when each message arrived.

## Main definitions

* `WireCall`, `WireSession.perform` — a use of a session and what it delivers.
* `Traffic`, `WireSession.Plays` — what the protocol does to its list in each.
* `Arrival`, `Traffic.ledger` — the list with a note of when messages arrived.
* `Traffic.passed` — the arrivals that should be delivered.

## Main results

* `perform_of_inStep` — what one use delivers.
* `deliveries_of_plays` — what any sequence of uses delivers.
-/

namespace TdsClient

/-! ## Uses of a session -/

/-- A use of a session during which messages may arrive. -/
inductive WireCall
  | submitBatch (sql : String)
  | submitCall (procedure : String) (parameters : List BoundParameter)
  | nextResult
  | fetchRow
  | bulkCopy (columns : List Column) (declarations : List String) (rows : List (List Value))
  | cancel

/-- Whether a use submits a request. -/
def WireCall.isSubmission : WireCall → Bool
  | .submitBatch _ | .submitCall _ _ => true
  | _ => false

/-- The list as a use begins; a request empties it. -/
def WireCall.start {α : Type} (call : WireCall) (list : List α) : List α :=
  if call.isSubmission then [] else list

/-- Messages that arrive at the end of the list, and a number of messages that are then taken back
from its end. -/
structure Traffic where
  arrived : List WireMessage
  removed : Nat

namespace WireSession

variable {ω α : Type} [Wire ω]

/-- The messages that a use delivers, whether it succeeds or fails, and the session behind it. -/
def outcome (result : Delivery α × WireSession ω) : List Message × WireSession ω :=
  (result.1.messages, result.2)

/-- A use of a session. -/
def perform (s : WireSession ω) : WireCall → List Message × WireSession ω
  | .submitBatch sql => outcome (s.submitBatch sql)
  | .submitCall procedure parameters => outcome (s.submitCall procedure parameters)
  | .nextResult => outcome s.nextResult
  | .fetchRow => outcome s.fetchRow
  | .bulkCopy columns declarations rows => outcome (s.bulkCopy columns declarations rows)
  | .cancel => outcome s.cancel

/-- What each of some uses delivers. -/
def deliveries (s : WireSession ω) : List WireCall → List (List Message)
  | [] => []
  | call :: rest => (s.perform call).1 :: deliveries (s.perform call).2 rest

/-- The protocol's list behind each of some uses. -/
def lists (s : WireSession ω) : List WireCall → List (List WireMessage)
  | [] => []
  | call :: rest =>
    Wire.messages (s.perform call).2.wire :: lists (s.perform call).2 rest

/-- In each use the protocol does this to its list. -/
def Plays (s : WireSession ω) : List (WireCall × Traffic) → Prop
  | [] => True
  | (call, traffic) :: rest =>
    Wire.messages (s.perform call).2.wire =
        (call.start (Wire.messages s.wire) ++ traffic.arrived).rdrop traffic.removed ∧
      Plays (s.perform call).2 rest

/-- The session knows the length of the list. -/
def InStep (s : WireSession ω) : Prop := s.seen = (Wire.messages s.wire).length

theorem inStep_ofWire (w : ω) : (ofWire w).InStep := rfl

/-- A use delivers what stands behind the messages that were in the list as it began, and knows the
length of the list again. -/
theorem perform_of_inStep {s : WireSession ω} (hs : s.InStep) (call : WireCall) :
    (s.perform call).1 = ((Wire.messages (s.perform call).2.wire).drop
        (call.start (Wire.messages s.wire)).length).map WireMessage.toMessage ∧
      (s.perform call).2.InStep := by
  -- two uses may be over before the protocol is asked
  have hidle : ([] : List Message) =
      ((Wire.messages s.wire).drop (Wire.messages s.wire).length).map WireMessage.toMessage := by
    simp
  have hasked : ∀ {α : Type} (work : ω → Except WireFailure α × ω),
      (s.invoke work).1.messages = ((Wire.messages (s.invoke work).2.wire).drop
        (Wire.messages s.wire).length).map WireMessage.toMessage := by
    intro α work
    rw [(messages_invoke work s).1, hs]
    rfl
  cases call with
  | submitBatch sql => exact ⟨rfl, rfl⟩
  | submitCall procedure parameters => exact ⟨rfl, rfl⟩
  | nextResult => exact ⟨congrArg (fun n => (List.drop n _).map WireMessage.toMessage) hs, rfl⟩
  | fetchRow =>
      show (outcome s.fetchRow).1 = ((Wire.messages (outcome s.fetchRow).2.wire).drop
        (Wire.messages s.wire).length).map WireMessage.toMessage ∧
        (outcome s.fetchRow).2.InStep
      unfold fetchRow
      split
      · exact ⟨hasked _, rfl⟩
      · exact ⟨hidle, hs⟩
  | bulkCopy columns declarations rows =>
      show (outcome (s.bulkCopy columns declarations rows)).1 =
        ((Wire.messages (outcome (s.bulkCopy columns declarations rows)).2.wire).drop
          (Wire.messages s.wire).length).map WireMessage.toMessage ∧
        (outcome (s.bulkCopy columns declarations rows)).2.InStep
      unfold bulkCopy
      split
      · exact ⟨hidle, hs⟩
      · exact ⟨hasked _, rfl⟩
  | cancel => exact ⟨hasked _, rfl⟩

end WireSession

/-! ## The list with a note of arrivals -/

/-- A message in the list, the use during which it arrived if that was not the login, and its place
among the messages that arrived with it. -/
structure Arrival where
  message : WireMessage
  call : Option Nat
  place : Nat
deriving DecidableEq

namespace Arrival

/-- What is delivered of an arrival. -/
def delivered (a : Arrival) : Message := a.message.toMessage

/-- Messages that arrive together. -/
def together (call : Option Nat) (messages : List WireMessage) : List Arrival :=
  messages.zipIdx.map fun (m, place) => ⟨m, call, place⟩

@[simp]
theorem map_message_together (call : Option Nat) (messages : List WireMessage) :
    (together call messages).map message = messages := by
  simp [together, Function.comp_def]

theorem call_of_mem_together {call : Option Nat} {messages : List WireMessage} {a : Arrival}
    (ha : a ∈ together call messages) : a.call = call := by
  obtain ⟨entry, -, rfl⟩ := List.mem_map.1 ha
  rfl

/-- Messages that arrive together are told apart by their places. -/
theorem nodup_together (call : Option Nat) (messages : List WireMessage) :
    (together call messages).Nodup := by
  have hplaces : (together call messages).map place = List.range messages.length := by
    simp [together, Function.comp_def, List.zipIdx_map_snd, List.range_eq_range']
  apply List.Nodup.of_map place
  rw [hplaces]
  exact List.nodup_range

end Arrival

namespace Traffic

/-- The list behind a use, with notes. -/
def next (n : Nat) (list : List Arrival) (step : WireCall × Traffic) : List Arrival :=
  (step.1.start list ++ Arrival.together (some n) step.2.arrived).rdrop step.2.removed

/-- The list behind each of some uses, of which the first has a number, with notes. -/
def ledgerFrom (n : Nat) (list : List Arrival) : List (WireCall × Traffic) → List (List Arrival)
  | [] => []
  | step :: rest => next n list step :: ledgerFrom (n + 1) (next n list step) rest

/-- Of the list behind each use, what arrived during the use. -/
def passedFrom (n : Nat) : List (List Arrival) → List (List Arrival)
  | [] => []
  | list :: rest => list.filter (·.call = some n) :: passedFrom (n + 1) rest

/-- The list behind each use, from that which the login left on. -/
def ledger (login : List WireMessage) (steps : List (WireCall × Traffic)) : List (List Arrival) :=
  ledgerFrom 0 (Arrival.together none login) steps

/-- The arrivals that are still in the list when the use ends during which they arrived. -/
def passed (login : List WireMessage) (steps : List (WireCall × Traffic)) : List (List Arrival) :=
  passedFrom 0 (ledger login steps)

/-- All arrivals in a list are different, and came before a use. -/
structure IsBefore (n : Nat) (list : List Arrival) : Prop where
  nodup : list.Nodup
  earlier : ∀ a ∈ list, ∀ m, a.call = some m → m < n

variable {n : Nat} {list : List Arrival} {step : WireCall × Traffic}

theorem isBefore_together (login : List WireMessage) :
    IsBefore 0 (Arrival.together none login) where
  nodup := Arrival.nodup_together none login
  earlier a ha m hm := by
    rw [Arrival.call_of_mem_together ha] at hm
    cases hm

theorem isBefore_start (h : IsBefore n list) (call : WireCall) : IsBefore n (call.start list) := by
  unfold WireCall.start
  split
  · exact ⟨List.nodup_nil, nofun⟩
  · exact h

/-- What arrives during a use is different from what was in the list. -/
theorem isBefore_next (h : IsBefore n list) : IsBefore (n + 1) (next n list step) := by
  obtain ⟨hnodup, hearlier⟩ := isBefore_start h step.1
  have hfront : next n list step <+:
      step.1.start list ++ Arrival.together (some n) step.2.arrived := List.take_prefix _ _
  constructor
  · apply hfront.sublist.nodup
    apply List.Nodup.append hnodup (Arrival.nodup_together _ _)
    intro a ha hnew
    exact Nat.lt_irrefl n (hearlier a ha n (Arrival.call_of_mem_together hnew))
  · intro a ha m hm
    rcases List.mem_append.1 (hfront.subset ha) with ha | ha
    · exact Nat.lt_succ_of_lt (hearlier a ha m hm)
    · rw [Arrival.call_of_mem_together ha] at hm
      cases hm
      exact Nat.lt_succ_self n

/-- If all items of one list have a mark, and none of the list before it, then those with the mark
are those behind, also if items at the end are missing. -/
theorem filter_take_append {α : Type} {p : α → Bool} {old new : List α}
    (hold : ∀ a ∈ old, p a = false) (hnew : ∀ a ∈ new, p a = true) (kept : Nat) :
    ((old ++ new).take kept).filter p = ((old ++ new).take kept).drop old.length := by
  induction old generalizing kept with
  | nil =>
      rw [List.nil_append, List.length_nil, List.drop_zero, List.filter_eq_self]
      intro a ha
      exact hnew a (List.mem_of_mem_take ha)
  | cons first rest ih =>
      cases kept with
      | zero => simp
      | succ kept =>
          have hfirst : p first = false := hold first List.mem_cons_self
          have hrest := ih (fun a ha => hold a (List.mem_cons_of_mem _ ha)) kept
          simpa [hfirst] using hrest

/-- What arrived during a use, and was not taken back, stands behind what was in the list. -/
theorem filter_next (h : IsBefore n list) :
    (next n list step).filter (·.call = some n) =
      (next n list step).drop (step.1.start list).length := by
  apply filter_take_append
  · intro a ha
    apply decide_eq_false
    intro hcall
    exact Nat.lt_irrefl n ((isBefore_start h step.1).earlier a ha n hcall)
  · intro a ha
    exact decide_eq_true (Arrival.call_of_mem_together ha)

/-- What is passed during later uses arrived during these. -/
theorem call_of_mem_passedFrom {lists : List (List Arrival)} {n : Nat} {a : Arrival}
    (ha : a ∈ (passedFrom n lists).flatten) : ∃ m, a.call = some m ∧ n ≤ m := by
  induction lists generalizing n with
  | nil => cases ha
  | cons list rest ih =>
      rcases List.mem_append.1 ha with ha | ha
      · exact ⟨n, of_decide_eq_true (List.mem_filter.1 ha).2, Nat.le_refl n⟩
      · obtain ⟨m, hcall, hlater⟩ := ih ha
        exact ⟨m, hcall, Nat.le_of_succ_le hlater⟩

/-- Nothing is passed twice. -/
theorem nodup_passedFrom (h : IsBefore n list) (steps : List (WireCall × Traffic)) :
    (passedFrom n (ledgerFrom n list steps)).flatten.Nodup := by
  induction steps generalizing n list with
  | nil => exact List.nodup_nil
  | cons step rest ih =>
      have hnext : IsBefore (n + 1) (next n list step) := isBefore_next h
      apply List.Nodup.append (hnext.nodup.filter _) (ih hnext)
      intro a ha hlater
      obtain ⟨m, hcall, hm⟩ := call_of_mem_passedFrom hlater
      have hn : a.call = some n := of_decide_eq_true (List.mem_filter.1 ha).2
      rw [hn] at hcall
      cases hcall
      exact Nat.lt_irrefl n hm

end Traffic

namespace WireSession

variable {ω : Type} [Wire ω]

open Traffic

/-- The notes change nothing in the messages. -/
theorem map_message_next (n : Nat) (list : List Arrival) (step : WireCall × Traffic) :
    (next n list step).map Arrival.message =
      (step.1.start (list.map Arrival.message) ++ step.2.arrived).rdrop step.2.removed := by
  have hstart : (step.1.start list).map Arrival.message =
      step.1.start (list.map Arrival.message) := by
    unfold WireCall.start
    split <;> rfl
  unfold next List.rdrop
  rw [List.map_take, List.map_append, hstart, Arrival.map_message_together]
  congr 1
  rw [← hstart]
  simp [Arrival.together]

/-- One use delivers what arrived during it and was not taken back, and follows the list. -/
theorem perform_of_plays {s : WireSession ω} (hs : s.InStep) {n : Nat} {list : List Arrival}
    (hbefore : IsBefore n list) (hlist : Wire.messages s.wire = list.map Arrival.message)
    {step : WireCall × Traffic} {rest : List (WireCall × Traffic)}
    (h : s.Plays (step :: rest)) :
    Wire.messages (s.perform step.1).2.wire = (next n list step).map Arrival.message ∧
      (s.perform step.1).1 =
        ((next n list step).filter (·.call = some n)).map Arrival.delivered := by
  have hnext : Wire.messages (s.perform step.1).2.wire =
      (next n list step).map Arrival.message := by
    rw [map_message_next, ← hlist]
    exact h.1
  refine ⟨hnext, ?_⟩
  have hlength : (step.1.start (Wire.messages s.wire)).length = (step.1.start list).length := by
    rw [hlist]
    unfold WireCall.start
    split <;> simp
  rw [(perform_of_inStep hs step.1).1, hnext, hlength, filter_next hbefore, ← List.map_drop,
    List.map_map]
  rfl

/-- So do any number of uses. -/
theorem deliveries_of_inStep {s : WireSession ω} (hs : s.InStep) {n : Nat} {list : List Arrival}
    (hbefore : IsBefore n list) (hlist : Wire.messages s.wire = list.map Arrival.message)
    {steps : List (WireCall × Traffic)} (h : s.Plays steps) :
    s.lists (steps.map Prod.fst) = (ledgerFrom n list steps).map (·.map Arrival.message) ∧
      s.deliveries (steps.map Prod.fst) =
        (passedFrom n (ledgerFrom n list steps)).map (·.map Arrival.delivered) := by
  induction steps generalizing s n list with
  | nil => exact ⟨rfl, rfl⟩
  | cons step rest ih =>
      obtain ⟨hnext, hdelivered⟩ := perform_of_plays hs hbefore hlist h
      obtain ⟨hlists, hdeliveries⟩ :=
        ih (perform_of_inStep hs step.1).2 (isBefore_next hbefore) hnext h.2
      exact ⟨congrArg₂ List.cons hnext hlists, congrArg₂ List.cons hdelivered hdeliveries⟩

/-- A message with nothing but a number. -/
def note (messageNumber : Int) : WireMessage := { messageNumber, text := "" }

/-- A protocol that has a message of the login, brings others when a request is submitted, with the
rows that nobody reads, and when the request is cancelled, and takes some back, once with a failure. -/
def chatter : WireScript where
  messages := [note 0]
  incidents := {
    submit := { messages := [note 1] }
    respond := { messages := [note 1, note 2] }
    cancel := { messages := [note 5] } }
  steps := [
    { columns := some [], rows := [⟨[], { messages := [note 3] }⟩, ⟨[], { messages := [note 4] }⟩] },
    { dropped := 1 },
    { dropped := 2, incident := { failure := some .timedOut } }]

/-- What the protocol does to its list in each use. -/
def chatterSteps : List (WireCall × Traffic) := [
  (.submitBatch "SELECT 1", ⟨[note 1, note 1, note 2], 0⟩),
  (.nextResult, ⟨[], 0⟩),
  (.nextResult, ⟨[note 3, note 4], 1⟩),
  (.nextResult, ⟨[], 2⟩),
  (.cancel, ⟨[note 5], 0⟩)]

/-- If messages were taken back before others arrive, as many of these would go unnoticed. -/
example :
    (ofWire { chatter with
      steps := [{ dropped := 2, incident := { messages := [note 6, note 7, note 8] } }] }).deliveries
        [.submitBatch "SELECT 1", .nextResult] =
      [[note 1, note 1, note 2], [note 8]].map (·.map WireMessage.toMessage) := by
  decide

end WireSession

end TdsClient
