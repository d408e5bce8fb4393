import Mathlib.Algebra.Ring.Int.Defs
import TdsClient.Proofs.Connection.Batch
import TdsClient.Proofs.Connection.Ownership
import TdsClient.Proofs.Session.Ledger

/-!
# Inserting many rows

Rows are collected until a batch is full, and what is left in the end is a
batch of its own. So the batches, one behind the other, are the rows that
are inserted. Something that is no row ends the insertion with an error,
and the batch it would have been in is not sent.

The invariant of the loop is a batch that has room for a row, and a ledger
that has nothing but the batches before.

## Main definitions

* `SentBatch`, `BulkCopy.entries` — batches as they stand in the ledger.
* `Inserting` — a connection while rows are inserted.
* `InsertsAll`, `StopsAtRefused` — how sending rows ends.

## Main results

* `meets_sendRows` — what is sent of some rows, with those that wait.
* `inserts_rows_once` — what is sent of all rows.
-/

namespace TdsClient.Connection

open Op

variable {σ α : Type}

/-! ## The ledger of an insertion -/

/-- A batch that was sent, and how many of its rows were saved. -/
structure SentBatch where
  rows : List (List Value)
  saved : Int

/-- The entries of batches: the statement in front of each. -/
def BulkCopy.entries (b : BulkCopy) (sent : List SentBatch) : List LedgerEntry :=
  sent.flatMap fun batch =>
    [.batch b.statement, .copied b.columns b.declarations batch.rows (some batch.saved)]

/-- A connection while an insertion that began on another one is going on: what the insertion
depends on is as it was there, the session complies, and the ledger has got entries. -/
structure Inserting (P : σ → Prop) (c₀ : Connection (Ledger σ)) (entries : List LedgerEntry)
    (c : Connection (Ledger σ)) : Prop where
  usable : c.fault? = none
  escalates : c.escalates = c₀.escalates
  inference : c.inference = c₀.inference
  complies : P c.session.session
  entries : c.session.entries = c₀.session.entries ++ entries

variable [Session σ] {P : σ → Prop} {version : Version} {c₀ c : Connection (Ledger σ)}
  {entries : List LedgerEntry}

namespace Inserting

omit [Session σ] in
/-- Uses of the session that go in the ledger, and others. -/
theorem call {work : Ledger σ → Delivery α × Ledger σ} {a : α} {more : List LedgerEntry}
    (h : Inserting P c₀ entries c) (hanswers : Answers c₀.escalates (work c.session).1 a)
    (hcomplies : P (work c.session).2.session)
    (hentries : (work c.session).2.entries = c.session.entries ++ more) :
    ∃ c', Connection.call work c = .ok a c' ∧ Inserting P c₀ (entries ++ more) c' ∧
      c'.session = (work c.session).2 := by
  refine ⟨_, call_of_answers h.usable (h.escalates ▸ hanswers),
    ⟨h.usable, h.escalates, h.inference, hcomplies, ?_⟩, rfl⟩
  show (work c.session).2.entries = _
  rw [hentries, h.entries, List.append_assoc]

theorem nextResult (hcomplies : Complies c₀.escalates version P) (h : Inserting P c₀ entries c) :
    ∃ columns c', Connection.call Session.nextResult c = .ok columns c' ∧
      Inserting P c₀ entries c' := by
  obtain ⟨⟨columns, hanswers⟩, hkept⟩ := hcomplies.ledger.result h.complies
  obtain ⟨c', hcall, hc', _⟩ := h.call hanswers hkept (List.append_nil _).symm
  rw [List.append_nil] at hc'
  exact ⟨columns, c', hcall, hc'⟩

theorem fetchRow (hcomplies : Complies c₀.escalates version P) (h : Inserting P c₀ entries c) :
    ∃ row c', Connection.call Session.fetchRow c = .ok row c' ∧ Inserting P c₀ entries c' := by
  obtain ⟨⟨row, hanswers⟩, hkept⟩ := hcomplies.ledger.row h.complies
  obtain ⟨c', hcall, hc', _⟩ := h.call hanswers hkept (List.append_nil _).symm
  rw [List.append_nil] at hc'
  exact ⟨row, c', hcall, hc'⟩

omit [Session σ] in
theorem begun (h : Inserting P c₀ entries c) :
    ∃ c', beginStatement none c = .ok () c' ∧ Inserting P c₀ entries c' ∧
      c'.session = c.session := by
  obtain ⟨cursors, hbegun⟩ := begun_eq c none
  refine ⟨c.begun none, bind_eq_ok.2 ⟨_, _, checkUsable_of_usable h.usable, rfl⟩, ?_, ?_⟩
  · rw [hbegun]
    exact ⟨h.usable, h.escalates, h.inference, h.complies, h.entries⟩
  · rw [hbegun]

/-- A statement of the connection itself goes in the ledger. -/
theorem submitted (hcomplies : Complies c₀.escalates version P) (h : Inserting P c₀ entries c)
    (sql : String) :
    ∃ c', submitFor none { sql } c = .ok () c' ∧ Inserting P c₀ (entries ++ [.batch sql]) c' ∧
      c'.session = (Session.submitBatch sql c.session).2 := by
  obtain ⟨hanswers, hkept⟩ := hcomplies.ledger.batch sql h.complies
  have hnoted : Inserting P c₀ entries (c.noted none { sql }) :=
    ⟨h.usable, h.escalates, h.inference, h.complies, h.entries⟩
  have hentered : (ask { sql } c.session).2.entries = c.session.entries ++ [.batch sql] := rfl
  obtain ⟨c', hcall, hc', hsession⟩ := hnoted.call hanswers hkept hentered
  refine ⟨c', bind_eq_ok.2 ⟨_, _, checkUsable_of_usable h.usable, ?_⟩, hc', hsession⟩
  exact bind_eq_ok.2 ⟨_, _, rfl, hcall⟩

end Inserting

/-! ## Statements of the insertion -/

theorem succeeds_skipRow (hcomplies : Complies c₀.escalates version P) (u : Unit) :
    Succeeds (Inserting P c₀ entries) (skipRow u) fun _ => Inserting P c₀ entries := by
  refine .bind (succeeds_iff.2 fun c hc => hc.fetchRow hcomplies) fun row => ?_
  cases row with
  | none => exact .pure fun _ hc => hc
  | some row => exact .pure fun _ hc => hc

theorem succeeds_skipResult (hcomplies : Complies c₀.escalates version P) (u : Unit) :
    Succeeds (Inserting P c₀ entries) (skipResult u) fun _ => Inserting P c₀ entries := by
  refine .bind (succeeds_iff.2 fun c hc => hc.nextResult hcomplies) fun columns => ?_
  match columns with
  | none => exact .pure fun _ hc => hc
  | some [] => exact .pure fun _ hc => hc
  | some (column :: rest) =>
      exact .bind (.repeating (succeeds_skipRow hcomplies) ()) fun _ => .pure fun _ hc => hc

/-- Reading a response to its end adds nothing to the ledger. -/
theorem succeeds_drain (hcomplies : Complies c₀.escalates version P) :
    Succeeds (Inserting P c₀ entries) drain fun _ => Inserting P c₀ entries :=
  .repeating (succeeds_skipResult hcomplies) ()

theorem succeeds_execute (hcomplies : Complies c₀.escalates version P) (sql : String) :
    Succeeds (Inserting P c₀ entries) (execute sql)
      fun _ => Inserting P c₀ (entries ++ [.batch sql]) := by
  refine .bind (Q := fun _ => Inserting P c₀ entries) (succeeds_iff.2 fun c hc => ?_) fun _ =>
    .bind (Q := fun _ => Inserting P c₀ (entries ++ [.batch sql])) (succeeds_iff.2 fun c hc => ?_)
      fun _ => succeeds_drain hcomplies
  · obtain ⟨c', hbegin, hc', _⟩ := hc.begun
    exact ⟨(), c', hbegin, hc'⟩
  · obtain ⟨c', hsubmit, hc', _⟩ := hc.submitted hcomplies sql
    exact ⟨(), c', hsubmit, hc'⟩

/-- A batch is sent behind the statement. -/
theorem succeeds_sendBatch (hcomplies : Complies c₀.escalates version P) (b : BulkCopy)
    (batch : List (List Value)) :
    Succeeds (Inserting P c₀ entries) (sendBatch b batch)
      fun saved => Inserting P c₀ (entries ++ b.entries [⟨batch, saved⟩]) := by
  refine .bind (succeeds_execute hcomplies b.statement) fun _ => succeeds_iff.2 fun c hc => ?_
  obtain ⟨⟨saved, hanswers⟩, hkept⟩ :=
    hcomplies.ledger.copy b.columns b.declarations batch hc.complies
  obtain ⟨c', hcall, hc', _⟩ := hc.call hanswers hkept (Ledger.entries_bulkCopy hanswers.result)
  rw [List.append_assoc] at hc'
  exact ⟨saved, c', hcall, hc'⟩

omit [Session σ] in
/-- Warnings that are not raised do not stop the insertion. -/
theorem succeeds_warnAll (texts : List String) (hcalm : c₀.escalates = false ∨ texts = []) :
    Succeeds (Inserting P c₀ entries) (warnAll texts) fun _ => Inserting P c₀ entries := by
  refine succeeds_iff.2 fun c hc => ?_
  rw [← hc.escalates] at hcalm
  exact ⟨(), _, warnAll_of_calm texts hcalm,
    ⟨hc.usable, hc.escalates, hc.inference, hc.complies, hc.entries⟩⟩

omit [Session σ] in
/-- A row is converted. -/
theorem succeeds_announce_row {columns : List Column} {encode : Bool} {row : Value}
    (hknown : encode = true → c₀.inference.charset.isKnown = true) (hrow : IsRow columns row)
    (hcalm : c₀.escalates = false ∨ lostCharacters c₀.inference encode columns row = [])
    (number : Nat) :
    Succeeds (Inserting P c₀ entries) (announce (bulkRow c₀.inference columns encode number row))
      fun values c =>
        values = convertedRow c₀.inference encode columns row ∧ Inserting P c₀ entries c := by
  rw [bulkRow_of_isRow hknown hrow]
  refine .bind (succeeds_warnAll _ (hcalm.imp_right fun hnone => ?_)) fun _ =>
    .pure fun _ hc => ⟨rfl, hc⟩
  rw [hnone]
  rfl

/-! ## Sending rows -/

/-- What an insertion has sent since the ledger had some entries: rows, in batches. -/
structure HasInserted (P : σ → Prop) (c₀ : Connection (Ledger σ)) (b : BulkCopy)
    (entries : List LedgerEntry) (rows : List (List Value)) (sent : List SentBatch)
    (c : Connection (Ledger σ)) : Prop where
  inserting : Inserting P c₀ (entries ++ b.entries sent) c
  cut : CutInto b.batchSize rows (sent.map (·.rows))

omit [Session σ] in
theorem HasInserted.nothing {b : BulkCopy} (h : Inserting P c₀ entries c) :
    HasInserted P c₀ b entries [] [] c where
  inserting := by
    show Inserting P c₀ (entries ++ []) c
    rw [List.append_nil]
    exact h
  cut := .nil _

omit [Session σ] in
/-- A full batch is sent before others. -/
theorem HasInserted.cons {b : BulkCopy} {rows : List (List Value)} {first : SentBatch}
    {sent : List SentBatch} (hfirst : first.rows ≠ [])
    (hfull : b.batchSize = some first.rows.length)
    (h : HasInserted P c₀ b (entries ++ b.entries [first]) rows sent c) :
    HasInserted P c₀ b entries (first.rows ++ rows) (first :: sent) c where
  inserting := by
    have hentries : b.entries (first :: sent) = b.entries [first] ++ b.entries sent :=
      List.flatMap_cons ..
    rw [hentries, ← List.append_assoc]
    exact h.inserting
  cut := .cons hfirst hfull h.cut

/-- All of some values are rows, and they are sent behind the rows that waited. -/
structure InsertsAll (P : σ → Prop) (c₀ : Connection (Ledger σ)) (b : BulkCopy)
    (entries : List LedgerEntry) (waiting : List (List Value)) (items : List Value)
    (saved total : Int) (c : Connection (Ledger σ)) : Prop where
  rows : refusedAt b.columns items = items.length
  inserted : ∃ sent : List SentBatch, total = saved + (sent.map (·.saved)).sum ∧
    HasInserted P c₀ b entries
      (waiting ++ items.map (convertedRow c₀.inference b.encode b.columns)) sent c

/-- One of some values is no row, and of what comes before it, with the rows that waited, only the
full batches are sent. -/
structure StopsAtRefused (P : σ → Prop) (c₀ : Connection (Ledger σ)) (b : BulkCopy)
    (entries : List LedgerEntry) (waiting : List (List Value)) (number : Nat) (items : List Value)
    (e : Error) (c : Connection (Ledger σ)) : Prop where
  refused : ∃ row, items[refusedAt b.columns items]? = some row ∧
    Refuses b.columns (number + refusedAt b.columns items) row e
  inserted : ∃ sent, HasInserted P c₀ b entries
    ((waiting ++ (items.take (refusedAt b.columns items)).map
        (convertedRow c₀.inference b.encode b.columns)).take
      (wholeBatches b.batchSize (waiting.length + refusedAt b.columns items))) sent c

section outcomes

omit [Session σ]

variable {b : BulkCopy} {waiting : List (List Value)} {row : Value} {rest items : List Value}
  {number : Nat} {saved count total : Int} {e : Error}

/-- A row is sent behind those that wait, as if it had waited with them. -/
theorem InsertsAll.of_row (hrow : IsRow b.columns row)
    (h : InsertsAll P c₀ b entries
      (waiting ++ [convertedRow c₀.inference b.encode b.columns row]) rest saved total c) :
    InsertsAll P c₀ b entries waiting (row :: rest) saved total c where
  rows := by rw [refusedAt_cons_of_isRow hrow, h.rows, List.length_cons]
  inserted := by
    obtain ⟨sent, htotal, hsent⟩ := h.inserted
    rw [List.append_assoc] at hsent
    exact ⟨sent, htotal, hsent⟩

theorem StopsAtRefused.of_row (hrow : IsRow b.columns row)
    (h : StopsAtRefused P c₀ b entries
      (waiting ++ [convertedRow c₀.inference b.encode b.columns row]) (number + 1) rest e c) :
    StopsAtRefused P c₀ b entries waiting number (row :: rest) e c where
  refused := by
    obtain ⟨refused, hrefused, hwhy⟩ := h.refused
    rw [Nat.add_right_comm, Nat.add_assoc] at hwhy
    rw [refusedAt_cons_of_isRow hrow, List.getElem?_cons_succ]
    exact ⟨refused, hrefused, hwhy⟩
  inserted := by
    obtain ⟨sent, hsent⟩ := h.inserted
    rw [List.length_append, List.length_singleton, Nat.add_right_comm, Nat.add_assoc,
      List.append_assoc] at hsent
    rw [refusedAt_cons_of_isRow hrow, List.take_succ_cons, List.map_cons]
    exact ⟨sent, hsent⟩

/-- A batch that was sent comes before what is sent later. -/
theorem InsertsAll.of_batch (hwaiting : waiting ≠ []) (hfull : b.batchSize = some waiting.length)
    (h : InsertsAll P c₀ b (entries ++ b.entries [⟨waiting, count⟩]) [] items (saved + count) total
      c) :
    InsertsAll P c₀ b entries waiting items saved total c where
  rows := h.rows
  inserted := by
    obtain ⟨sent, htotal, hsent⟩ := h.inserted
    refine ⟨⟨waiting, count⟩ :: sent, ?_, hsent.cons hwaiting hfull⟩
    rw [htotal, List.map_cons, List.sum_cons, Int.add_assoc]

theorem StopsAtRefused.of_batch (hwaiting : waiting ≠ [])
    (hfull : b.batchSize = some waiting.length)
    (h : StopsAtRefused P c₀ b (entries ++ b.entries [⟨waiting, count⟩]) [] number items e c) :
    StopsAtRefused P c₀ b entries waiting number items e c where
  refused := h.refused
  inserted := by
    obtain ⟨sent, hsent⟩ := h.inserted
    rw [List.nil_append, List.length_nil, Nat.zero_add] at hsent
    refine ⟨⟨waiting, count⟩ :: sent, ?_⟩
    rw [b.wholeBatches_of_full hwaiting hfull, List.take_length_add_append]
    exact hsent.cons hwaiting hfull

/-- As long as the rows that wait have room in a batch, nothing is sent when a value is refused. -/
theorem StopsAtRefused.of_refused (hroom : b.isFull waiting = false)
    (hrow : ¬IsRow b.columns row) (hwhy : Refuses b.columns number row e)
    (h : Inserting P c₀ entries c) :
    StopsAtRefused P c₀ b entries waiting number (row :: rest) e c where
  refused := by
    rw [refusedAt_cons_of_not_isRow hrow]
    exact ⟨row, rfl, hwhy⟩
  inserted := by
    rw [refusedAt_cons_of_not_isRow hrow, Nat.add_zero, b.wholeBatches_of_room hroom]
    exact ⟨[], .nothing h⟩

/-- If no row waited, what was sent is what is to be inserted. -/
theorem InsertsAll.exists_sent (h : InsertsAll P c₀ b entries [] items saved total c) :
    ¬refusedAt b.columns items < items.length ∧
      ∃ sent : List SentBatch, total = saved + (sent.map (·.saved)).sum ∧
        HasInserted P c₀ b entries ((insertedOf b.batchSize b.columns items).map
          (convertedRow c₀.inference b.encode b.columns)) sent c := by
  have hall : ¬refusedAt b.columns items < items.length := fun hless => Nat.ne_of_lt hless h.rows
  obtain ⟨sent, htotal, hsent⟩ := h.inserted
  refine ⟨hall, sent, htotal, ?_⟩
  unfold insertedOf
  rw [if_neg hall]
  exact hsent

theorem StopsAtRefused.exists_sent (h : StopsAtRefused P c₀ b entries [] 0 items e c) :
    ∃ hless : refusedAt b.columns items < items.length,
      Refuses b.columns (refusedAt b.columns items) items[refusedAt b.columns items] e ∧
        ∃ sent, HasInserted P c₀ b entries ((insertedOf b.batchSize b.columns items).map
          (convertedRow c₀.inference b.encode b.columns)) sent c := by
  obtain ⟨row, hrow, hwhy⟩ := h.refused
  obtain ⟨hless, rfl⟩ := List.getElem?_eq_some_iff.1 hrow
  obtain ⟨sent, hsent⟩ := h.inserted
  rw [Nat.zero_add] at hwhy
  rw [List.nil_append, List.length_nil, Nat.zero_add, ← List.map_take, List.take_take,
    Nat.min_eq_left (wholeBatches_le _ _)] at hsent
  refine ⟨hless, hwhy, sent, ?_⟩
  unfold insertedOf
  rw [if_pos hless]
  exact hsent

end outcomes

/-- The rows that wait in the end are a batch of their own. -/
theorem succeeds_sendRest (hcomplies : Complies c₀.escalates version P) {b : BulkCopy}
    (number : Nat) {waiting : List (List Value)} (hroom : b.isFull waiting = false) (saved : Int) :
    Succeeds (Inserting P c₀ entries) (sendRows b number waiting saved [])
      (InsertsAll P c₀ b entries waiting [] saved) := by
  unfold sendRows
  cases waiting with
  | nil => exact .pure fun c hc => ⟨rfl, [], (Int.add_zero _).symm, .nothing hc⟩
  | cons first later =>
      refine .bind (succeeds_sendBatch hcomplies b _) fun count => .pure fun c hc =>
        ⟨rfl, [⟨first :: later, count⟩], ?_, hc, ?_⟩
      · show saved + count = saved + (count + 0)
        rw [Int.add_zero]
      · have hfits := (b.isFull_eq_false_iff _).1 hroom
        rw [List.map_nil, List.append_nil]
        exact .singleton (List.cons_ne_nil _ _) fun size hsize => Nat.le_of_lt (hfits size hsize)

/-- What comes after a batch that got a further row: it is sent if it is full, and waits for more
rows otherwise. -/
theorem meets_sendIfFull (hcomplies : Complies c₀.escalates version P) {b : BulkCopy}
    (hsize : ∀ size ∈ b.batchSize, 0 < size) {number : Nat} {rest : List Value}
    (hrest : ∀ {waiting : List (List Value)} (saved : Int) (entries : List LedgerEntry),
      b.isFull waiting = false →
      Meets (Inserting P c₀ entries) (sendRows b number waiting saved rest)
        (InsertsAll P c₀ b entries waiting rest saved)
        (StopsAtRefused P c₀ b entries waiting number rest))
    {batch : List (List Value)} (hbatch : batch ≠ [])
    (hlimit : b.isFull batch = true → b.batchSize = some batch.length) (saved : Int)
    (entries : List LedgerEntry) :
    Meets (Inserting P c₀ entries)
      (if b.isFull batch then do
        let count ← sendBatch b batch
        sendRows b number [] (saved + count) rest
      else sendRows b number batch saved rest)
      (InsertsAll P c₀ b entries batch rest saved)
      (StopsAtRefused P c₀ b entries batch number rest) := by
  split
  next hfull =>
    have hempty : b.isFull [] = false := (b.isFull_eq_false_iff []).2 hsize
    refine .bind ((succeeds_sendBatch hcomplies b batch).failing fun _ _ => False.elim)
      fun count => ?_
    exact (hrest (saved + count) _ hempty).weaken (fun _ h => h)
      (fun _ _ h => h.of_batch hbatch (hlimit hfull)) fun _ _ h => h.of_batch hbatch (hlimit hfull)
  next hmore => exact hrest saved entries (eq_false_of_ne_true hmore)

/-- If all values are rows, all of them are sent behind the rows that wait in a batch. Otherwise
the first that is not is refused, and only the full batches before it are sent. -/
theorem meets_sendRows (hcomplies : Complies c₀.escalates version P) {b : BulkCopy}
    (hsize : ∀ size ∈ b.batchSize, 0 < size)
    (hknown : b.encode = true → c₀.inference.charset.isKnown = true) (items : List Value)
    (hcalm : c₀.escalates = false ∨ ∀ row ∈ items.take (refusedAt b.columns items),
      lostCharacters c₀.inference b.encode b.columns row = [])
    (number : Nat) {waiting : List (List Value)} (saved : Int) (entries : List LedgerEntry)
    (hroom : b.isFull waiting = false) :
    Meets (Inserting P c₀ entries) (sendRows b number waiting saved items)
      (InsertsAll P c₀ b entries waiting items saved)
      (StopsAtRefused P c₀ b entries waiting number items) := by
  induction items generalizing number waiting saved entries with
  | nil => exact (succeeds_sendRest hcomplies number hroom saved).failing fun _ _ => False.elim
  | cons row rest ih =>
      unfold sendRows
      refine .afterGet fun d => ?_
      rintro c ⟨hc, rfl⟩
      rw [hc.inference]
      by_cases hrow : IsRow b.columns row
      · rw [refusedAt_cons_of_isRow hrow, List.take_succ_cons, List.forall_mem_cons] at hcalm
        refine Meets.bind ((succeeds_announce_row hknown hrow (hcalm.imp_right And.left)
          number).failing fun _ _ => False.elim) (fun values => ?_) _ hc
        rintro c ⟨rfl, hkept⟩
        have hnext := meets_sendIfFull hcomplies hsize (ih (hcalm.imp_right And.right) (number + 1))
          (List.append_ne_nil_of_right_ne_nil waiting (List.cons_ne_nil
            (convertedRow c₀.inference b.encode b.columns row) []))
          (b.batchSize_of_isFull hroom) saved entries
        exact hnext.weaken (fun _ h => h) (fun _ _ h => h.of_row hrow) (fun _ _ h => h.of_row hrow)
          c hkept
      · obtain ⟨e, hwhy, hfail⟩ := bulkRow_of_not_isRow c₀.inference b.encode hrow number
        show Ends _ _ ((announce (bulkRow c₀.inference b.columns b.encode number row) >>= _) d)
        rw [hfail]
        exact .of_refused hroom hrow hwhy hc

/-! ## The whole insertion -/

/-- The columns of a table are those that the session reports for it, if they are supported. -/
theorem tableColumns_of_complies (hcomplies : Complies c.escalates version P)
    (hsession : P c.session.session) (husable : c.fault? = none) {table : String}
    {reported : Option (List Column)}
    (hreported : (Session.nextResult
      (Session.submitBatch (columnsStatement table) c.session).2).1.result = .ok reported)
    {columns : List Column}
    (hcolumns : (reported.getD []).mapM (Column.normalize version) = .ok columns) :
    ∃ c', tableColumns table c = .ok columns c' ∧
      Inserting P c [.batch (columnsStatement table)] c' := by
  have hstart : Inserting P c [] c := ⟨husable, rfl, rfl, hsession, (List.append_nil _).symm⟩
  obtain ⟨c₁, hbegin, hc₁, hsession₁⟩ := hstart.begun
  obtain ⟨c₂, hsubmit, hc₂, hsession₂⟩ := hc₁.submitted hcomplies (columnsStatement table)
  obtain ⟨found, c₃, hnext, hc₃⟩ := hc₂.nextResult hcomplies
  have hfound : found = reported := by
    have hresult := (call_eq_ok hnext).1
    rw [hsession₂, hsession₁, hreported] at hresult
    cases hresult
    rfl
  obtain ⟨_, c₄, hdrain, hc₄⟩ := succeeds_iff.1 (succeeds_drain hcomplies) c₃ hc₃
  refine ⟨c₄, bind_eq_ok.2 ⟨_, _, hbegin, bind_eq_ok.2 ⟨_, _, hsubmit, bind_eq_ok.2 ⟨_, _, hnext,
    bind_eq_ok.2 ⟨_, _, hdrain, bind_eq_ok.2 ⟨_, _, rfl, ?_⟩⟩⟩⟩⟩, hc₄⟩
  have hversion : Session.version c₄.session = version := hcomplies.version hc₄.complies
  rw [hversion, hfound, hcolumns]
  rfl

/-- Once the columns of the table are known, the rows are sent. -/
theorem bulkInsert_eq {table : String} {rows batchSize : Value} {limit : Option Nat}
    {items : List Value} {columns : List Column} {declarations : List String} {c' : Connection σ}
    {c : Connection σ} (husable : c.fault? = none) (henabled : c.bulkCopyEnabled = true)
    (hlimit : batchLimit batchSize = .ok limit) (hrows : rows.items? = some items)
    (htable : tableColumns table c = .ok columns c')
    (hdeclarations : columns.mapM Column.declaration = .ok declarations)
    (tableLock encode : Bool) :
    bulkInsert table rows batchSize tableLock encode c =
      sendRows ⟨insertStatement table columns declarations tableLock, columns, declarations, encode,
        limit⟩ 0 [] 0 items c' := by
  unfold bulkInsert
  rw [bind_of_ok _ (checkUsable_of_usable husable)]
  show (if c.bulkCopyEnabled then _ else _ : Op σ Int) c = _
  rw [if_pos henabled, hlimit]
  simp only [hrows]
  show (tableColumns table >>= _ : Op σ Int) c = _
  rw [bind_of_ok _ htable, hdeclarations]
  rfl

/-- Rows are inserted into a table of supported columns over a session that complies; no warning is
raised, and the code page is known if text is encoded in it. If all of them are rows, then all are
sent, each once and in order, as they are converted; the result is the number that was saved of
them. If not, the first that is no row is refused, and only the rows in the full batches before it
are sent. In any case the batches are full except for the last, and in front of each stands the
statement. -/
theorem inserts_rows_once (hcomplies : Complies c.escalates version P)
    (hsession : P c.session.session) (husable : c.fault? = none)
    (henabled : c.bulkCopyEnabled = true) {table : String} {reported : Option (List Column)}
    (hreported : (Session.nextResult
      (Session.submitBatch (columnsStatement table) c.session).2).1.result = .ok reported)
    {columns : List Column}
    (hcolumns : (reported.getD []).mapM (Column.normalize version) = .ok columns)
    {declarations : List String}
    (hdeclarations : columns.mapM Column.declaration = .ok declarations) {rows : Value}
    {items : List Value} (hrows : rows.items? = some items) {batchSize : Value}
    {limit : Option Nat} (hlimit : batchLimit batchSize = .ok limit) (tableLock encode : Bool)
    (hknown : encode = true → c.inference.charset.isKnown = true)
    (hcalm : c.escalates = false ∨ ∀ row ∈ items.take (refusedAt columns items),
      lostCharacters c.inference encode columns row = []) :
    let b : BulkCopy :=
      ⟨insertStatement table columns declarations tableLock, columns, declarations, encode, limit⟩
    let k := refusedAt columns items
    ∃ (sent : List SentBatch) (c' : Connection (Ledger σ)),
      c'.session.entries =
        c.session.entries ++ .batch (columnsStatement table) :: b.entries sent ∧
      CutInto limit ((insertedOf limit columns items).map (convertedRow c.inference encode columns))
        (sent.map (·.rows)) ∧
      (∀ batch ∈ sent, ∀ row ∈ batch.rows, row.length = columns.length) ∧
      if h : k < items.length then
        ∃ e, Refuses columns k items[k] e ∧
          bulkInsert table rows batchSize tableLock encode c = .error e c'
      else
        bulkInsert table rows batchSize tableLock encode c = .ok (sent.map (·.saved)).sum c' := by
  intro b k
  obtain ⟨c₁, htable, hc₁⟩ :=
    tableColumns_of_complies hcomplies hsession husable hreported hcolumns
  have hsize : ∀ size ∈ b.batchSize, 0 < size := by
    rintro size rfl
    exact batchLimit_pos hlimit
  have hlength : ∀ {entries sent c'}, HasInserted P c b entries
      ((insertedOf limit columns items).map (convertedRow c.inference encode columns)) sent c' →
      ∀ batch ∈ sent, ∀ row ∈ batch.rows, row.length = columns.length := by
    intro entries sent c' hsent batch hbatch row hrow
    have hmem := List.mem_flatten_of_mem (List.mem_map_of_mem hbatch) hrow
    rw [hsent.cut.joined] at hmem
    obtain ⟨item, hitem, rfl⟩ := List.mem_map.1 hmem
    exact length_convertedRow c.inference encode (isRow_of_mem_insertedOf hitem)
  have hends := meets_sendRows hcomplies hsize hknown items hcalm 0 0 _
    ((b.isFull_eq_false_iff []).2 hsize) c₁ hc₁
  rw [bulkInsert_eq husable henabled hlimit hrows htable hdeclarations tableLock encode]
  cases hop : sendRows b 0 [] 0 items c₁ with
  | ok total c' =>
      rw [hop] at hends
      obtain ⟨hall, sent, rfl, hsent⟩ := hends.exists_sent
      refine ⟨sent, c', hsent.inserting.entries, hsent.cut, hlength hsent, ?_⟩
      rw [dif_neg hall, Int.zero_add]
  | error e c' =>
      rw [hop] at hends
      obtain ⟨hless, hwhy, sent, hsent⟩ := hends.exists_sent
      refine ⟨sent, c', hsent.inserting.entries, hsent.cut, hlength hsent, ?_⟩
      rw [dif_pos hless]
      exact ⟨e, hwhy, rfl⟩

/-- The columns of a table of people. -/
def personColumns : List Column :=
  [{ name := "id", typeCode := .int, size := 4, nullable := false },
    { name := "name", typeCode := .varChar, size := 50 }]

/-- A connection whose server has the table. -/
def populating : Connection (Ledger ScriptedSession) where
  session := { session := {
    responses := [("SELECT TOP 0 * FROM people", { results := [{ columns := some personColumns }] })] } }
  inference := { version := .v74 }

/-- Rows of all kinds, and a mapping without a number. -/
def people : List Value :=
  [.dictionary [(.text "name", .text "Ⅎ"), (.text "id", .int 1)],
    .tuple [.int 2, .typed (.varChar (some "two") none)],
    .dictionary [(.text "id", .int 3)],
    .dictionary [(.text "name", .text "four")]]

/-- In batches of two the first two are sent before the last one is refused. -/
theorem inserts_rows_once_populating :
    ∃ (sent : List SentBatch) (c' : Connection (Ledger ScriptedSession)),
      CutInto (some 2) [[.int 1, .text "?"], [.int 2, .text "two"]] (sent.map (·.rows)) ∧
      bulkInsert "people" (.list people) (.int 2) true true populating =
        .error (.misuse (.missingColumn "id")) c' := by
  have hcalm : populating.session.session.IsCalm populating.escalates .v74 := by
    refine ⟨rfl, List.forall_mem_singleton.2 ?_, nofun, nofun, nofun⟩
    refine ⟨Playback.isCalm_default _, List.forall_mem_singleton.2 ?_⟩
    exact ⟨Playback.isCalm_default _, nofun⟩
  have hreported : (Session.nextResult (Session.submitBatch (columnsStatement "people")
      populating.session).2).1.result = .ok (some personColumns) := rfl
  have hcolumns : personColumns.mapM (Column.normalize .v74) = .ok personColumns := rfl
  have hdeclarations : personColumns.mapM Column.declaration = .ok ["INT", "VARCHAR(50)"] := rfl
  have hrows : (Value.list people).items? = some people := rfl
  have hlimit : batchLimit (.int 2) = .ok (some 2) := rfl
  obtain ⟨sent, c', _, hcut, _, hend⟩ := inserts_rows_once
    (ScriptedSession.complies_isCalm populating.escalates .v74) hcalm rfl rfl hreported hcolumns
    hdeclarations hrows hlimit true true (fun _ => rfl) (.inl rfl)
  have hless : refusedAt personColumns people < people.length := by decide
  rw [dif_pos hless] at hend
  obtain ⟨e, hwhy, hinsert⟩ := hend
  have herror : e = .misuse (.missingColumn "id") := by
    cases hwhy with
    | missing hentries hfirst =>
        cases hentries
        cases hfirst
        rfl
    | count hcells hlength => cases hcells
    | kind hentries hcells => cases hentries
  subst herror
  exact ⟨sent, c', hcut, hinsert⟩

end TdsClient.Connection
