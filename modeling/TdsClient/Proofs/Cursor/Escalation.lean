import TdsClient.Proofs.Connection.Report
import TdsClient.Proofs.Cursor.Block
import TdsClient.Proofs.Cursor.Coherence
import TdsClient.Proofs.Cursor.Traversal
import TdsClient.Proofs.Session.Stream

/-!
# Fetches that raise warnings

Rows may come with messages, and on a connection that raises warnings the
fetch that reads such a row raises. Fetches then take the rows of a result
set block by block: a fetch that returns has returned the rows that it took,
and one that raises has lost them.

The cursor counts the rows it returned and those that a fetch lost before
the one that raised, but it keeps no row: the next fetch starts behind the
row that the message came with.

## Main definitions

* `Delivers` — how a row that is streamed is seen.
* `Streaming` — a cursor at a result set, and the rows its session has left.

## Main results

* `meets_readRows` — rows are read until one raises.
* `fetches_take_blocks` — what a program is told by fetches in a row, and
  which rows the fetches that raised have lost.
* `fetch_loses_row_summing` — a fetch that raises consumes a row.
-/

namespace TdsClient.Cursor

open Connection Op

variable {σ : Type}

/-- How a row is seen by a program: its values converted, and of its messages, which only inform,
the first that is raised as a warning. -/
structure Delivers (r : CursorRecord) (escalates : Bool) (streamed : StreamedRow)
    (row : DeliveredRow) : Prop where
  converts : Converts r streamed.values row.values
  informs : ∀ m ∈ streamed.messages, m.severity ≤ 10
  warning : row.warning = if escalates then (warningsOf streamed.messages).head? else none

/-- A cursor at a result set whose columns have names, and the rows that its session has left. -/
structure Streaming (k : Cursor) (escalates : Bool) (Holds : σ → List StreamedRow → Prop)
    (names : List String) (arraySize : Int) (rows : List DeliveredRow) (c : Connection σ) :
    Prop where
  ready : Ready k escalates c
  state : (k.recordIn c).state = .hasResults
  described : (k.recordIn c).description.isSome = true
  names : (k.recordIn c).columnNames = some names
  arraySize : (k.recordIn c).arraySize = arraySize
  rows : ∃ streamed, Holds c.session streamed ∧
    List.Forall₂ (Delivers (k.recordIn c) escalates) streamed rows

variable {k : Cursor} {escalates : Bool} {Holds : σ → List StreamedRow → Prop}
  {names : List String} {arraySize : Int} {rows : List DeliveredRow} {c : Connection σ}

/-- A row raises nothing if warnings are not raised or its messages call for none. -/
theorem Delivers.calm {r : CursorRecord} {streamed : StreamedRow} {row : DeliveredRow}
    (h : Delivers r escalates streamed row) (hrow : row.warning = none) :
    Answers escalates
      (⟨streamed.messages, .ok (some streamed.values)⟩ : Delivery (Option (List Value)))
      (some streamed.values) where
  result := rfl
  informs := h.informs
  calm := by
    have hwarning := h.warning
    rw [hrow] at hwarning
    cases escalates with
    | false => exact .inl rfl
    | true => exact .inr (List.head?_eq_none_iff.1 hwarning.symm)

/-- Rows are seen alike as long as the conversions are known. -/
theorem forall₂_delivers {r r' : CursorRecord} (h : r'.conversions = r.conversions)
    {streamed : List StreamedRow} (hrows : List.Forall₂ (Delivers r escalates) streamed rows) :
    List.Forall₂ (Delivers r' escalates) streamed rows := by
  refine hrows.imp fun raw row hrow => ⟨?_, hrow.informs, hrow.warning⟩
  unfold Converts
  rw [h]
  exact hrow.converts

/-- After the session was used and the cursor changed, but not its result set. -/
theorem Streaming.used {α : Type} (h : Streaming k escalates Holds names arraySize rows c)
    (used : Delivery α × σ) {f : CursorRecord → CursorRecord}
    (hset : ∀ r : CursorRecord, r.SameSet (f r)) (hsize : ∀ r, (f r).arraySize = r.arraySize)
    {left : List DeliveredRow} {streamed : List StreamedRow} (hholds : Holds used.2 streamed)
    (hleft : List.Forall₂ (Delivers (k.recordIn c) escalates) streamed left) :
    Streaming k escalates Holds names arraySize left ((c.took used).changed k f) := by
  have hrecord := h.ready.recordIn_changed used f
  have hsame := hset (k.recordIn c)
  refine ⟨(h.ready.took used).changed f, ?_, ?_, ?_, ?_, streamed, hholds, ?_⟩
  · rw [hrecord, hsame.state, h.state]
  · rw [hrecord, hsame.description, h.described]
  · rw [hrecord, hsame.names, h.names]
  · rw [hrecord, hsize, h.arraySize]
  · exact forall₂_delivers (by rw [hrecord, hsame.conversions]) hleft

variable [Session σ]

/-! ## Reading rows -/

/-- A row that raises nothing is read. -/
theorem readRow_of_calm (hstreams : Streams escalates Holds) {r : DeliveredRow}
    {rest : List DeliveredRow} (h : Streaming k escalates Holds names arraySize (r :: rest) c)
    (hr : r.warning = none) :
    ∃ c', k.readRow c = .ok (some r.values) c' ∧
      Streaming k escalates Holds names arraySize rest c' := by
  obtain ⟨streamed, hholds, hrows⟩ := h.rows
  cases hrows with
  | @cons raw _ raws _ hraw hrest =>
      obtain ⟨hdelivery, hheld⟩ := hstreams.row hholds
      have hanswers : Answers escalates (Session.fetchRow c.session).1 (some raw.values) := by
        rw [hdelivery]
        exact hraw.calm hr
      obtain ⟨conversions, hconversions, hconverted⟩ := hraw.converts
      refine ⟨_, ?_, h.used (Session.fetchRow c.session) (f := (·.countRow))
        (fun _ => ⟨rfl, rfl, rfl, rfl⟩) (fun _ => rfl) hheld hrest⟩
      refine bind_eq_ok.2 ⟨_, _, rfl, ?_⟩
      rw [if_neg (not_not_intro h.state)]
      refine bind_eq_ok.2 ⟨_, _, h.ready.call hanswers, bind_eq_ok.2 ⟨_, _, rfl, ?_⟩⟩
      have hsame : k.recordIn (c.took (Session.fetchRow c.session)) = k.recordIn c := rfl
      rw [hsame, hconversions]
      refine bind_eq_ok.2 ⟨_, _, rfl, ?_⟩
      rw [hconverted]
      rfl

/-- A row that comes with a warning is gone when the warning is raised. -/
theorem readRow_of_raised (hstreams : Streams escalates Holds) {r : DeliveredRow}
    {rest : List DeliveredRow} (h : Streaming k escalates Holds names arraySize (r :: rest) c)
    {w : Warning} (hr : r.warning = some w) :
    ∃ c', k.readRow c = .error (.warning w) c' ∧
      Streaming k escalates Holds names arraySize rest c' := by
  obtain ⟨streamed, hholds, hrows⟩ := h.rows
  cases hrows with
  | @cons raw _ raws _ hraw hrest =>
      obtain ⟨hdelivery, hheld⟩ := hstreams.row hholds
      have hescalates : c.escalates = true ∧ (warningsOf raw.messages).head? = some w := by
        have hwarning := hraw.warning
        rw [hr] at hwarning
        rw [h.ready.escalates]
        cases escalates with
        | false => cases hwarning
        | true => exact ⟨rfl, hwarning.symm⟩
      obtain ⟨warnings, hwarnings⟩ := List.head?_eq_some_iff.1 hescalates.2
      obtain ⟨m, reported, hreported, rfl, -⟩ := List.map_eq_cons_iff.1 hwarnings
      rw [Message.filter_isReported] at hreported
      have hcall : call Session.fetchRow c =
          .error (.warning (.ofMessage m))
            (c.received (Session.fetchRow c.session).2 raw.messages) := by
        rw [call_of_usable _ h.ready.usable, hdelivery]
        exact (reports_settle ⟨raw.messages, .ok (some raw.values)⟩ c _).escalated hraw.informs
          (some raw.values) rfl hescalates.1 m reported hreported
      refine ⟨c.received (Session.fetchRow c.session).2 raw.messages, ?_,
        ⟨h.ready.has, h.ready.usable, h.ready.escalates⟩, h.state, h.described, h.names,
        h.arraySize, raws, hheld, hrest⟩
      show (if (k.recordIn c).state ≠ .hasResults then _ else _ : Op σ _) c = _
      rw [if_neg (not_not_intro h.state)]
      exact bind_of_error _ hcall

/-- At the end there is no row. -/
theorem readRow_of_end (hstreams : Streams escalates Holds)
    (h : Streaming k escalates Holds names arraySize [] c) :
    ∃ c', k.readRow c = .ok none c' ∧ Streaming k escalates Holds names arraySize [] c' := by
  obtain ⟨streamed, hholds, hrows⟩ := h.rows
  cases hrows with
  | nil =>
      obtain ⟨hanswers, hheld⟩ := hstreams.noRow hholds
      refine ⟨_, ?_, h.used (Session.fetchRow c.session)
        (f := fun r => { r with rowCount := Session.rowCount (Session.fetchRow c.session).2 })
        (fun _ => ⟨rfl, rfl, rfl, rfl⟩) (fun _ => rfl) hheld .nil⟩
      refine bind_eq_ok.2 ⟨_, _, rfl, ?_⟩
      rw [if_neg (not_not_intro h.state)]
      exact bind_eq_ok.2 ⟨_, _, h.ready.call hanswers, rfl⟩

/-- What there is once rows were read: they are the next ones, none of them raised anything, and
the rest is left. -/
structure HasTaken (k : Cursor) (escalates : Bool) (Holds : σ → List StreamedRow → Prop)
    (names : List String) (arraySize : Int) (rows : List DeliveredRow)
    (read : List (List Value)) (c : Connection σ) : Prop where
  eq_take : read = (rows.take read.length).map (·.values)
  calm : raised? (rows.take read.length) = none
  streaming : Streaming k escalates Holds names arraySize (rows.drop read.length) c

/-- A block was taken and raised nothing: it was read, and what follows it is left. -/
structure Took (k : Cursor) (escalates : Bool) (Holds : σ → List StreamedRow → Prop)
    (names : List String) (arraySize : Int) (rows block : List DeliveredRow)
    (read : List (List Value)) (c : Connection σ) : Prop where
  calm : raised? block = none
  eq_values : read = block.map (·.values)
  streaming : Streaming k escalates Holds names arraySize (rows.drop block.length) c

/-- A block was taken and raised a warning: what follows it is left. -/
structure Lost (k : Cursor) (escalates : Bool) (Holds : σ → List StreamedRow → Prop)
    (names : List String) (arraySize : Int) (rows block : List DeliveredRow) (e : Error)
    (c : Connection σ) : Prop where
  raised : ∃ w, raised? block = some w ∧ e = .warning w
  streaming : Streaming k escalates Holds names arraySize (rows.drop block.length) c

omit [Session σ] in
/-- Before the first row nothing was read. -/
theorem HasTaken.start (h : Streaming k escalates Holds names arraySize rows c) :
    HasTaken k escalates Holds names arraySize rows [] c :=
  ⟨rfl, rfl, h⟩

/-- The rows up to the next one, and those behind it. -/
theorem take_drop_of_cons {rows rest : List DeliveredRow} {n : Nat} {r : DeliveredRow}
    (h : rows.drop n = r :: rest) :
    n < rows.length ∧ rows.take (n + 1) = rows.take n ++ [r] ∧ rows.drop (n + 1) = rest := by
  have hlength := congrArg List.length h
  rw [List.length_drop, List.length_cons] at hlength
  refine ⟨by omega, ?_, ?_⟩
  · rw [List.take_add, h]
    rfl
  · rw [← List.drop_drop, h]
    rfl

omit [Session σ] in
/-- A row that raises nothing is read after the others. -/
theorem HasTaken.read {c' : Connection σ} {read : List (List Value)} {r : DeliveredRow}
    {rest : List DeliveredRow} (h : HasTaken k escalates Holds names arraySize rows read c)
    (hleft : rows.drop read.length = r :: rest) (hr : r.warning = none)
    (hrest : Streaming k escalates Holds names arraySize rest c') :
    HasTaken k escalates Holds names arraySize rows (read ++ [r.values]) c' := by
  obtain ⟨-, htake, hdrop⟩ := take_drop_of_cons hleft
  have hlength : (read ++ [r.values]).length = read.length + 1 := List.length_append
  constructor
  · rw [hlength, htake, List.map_append, ← h.eq_take]
    rfl
  · rw [hlength, htake, raised?_append_of_none h.calm]
    simpa [raised?] using hr
  · rw [hlength, hdrop]
    exact hrest

omit [Session σ] in
/-- A row that raises is the last one of the block, and the block is lost. -/
theorem HasTaken.lost {c' : Connection σ} {bound : Nat} {read : List (List Value)}
    {r : DeliveredRow} {rest : List DeliveredRow}
    (h : HasTaken k escalates Holds names arraySize rows read c)
    (hleft : rows.drop read.length = r :: rest) (hmore : read.length < bound) {w : Warning}
    (hr : r.warning = some w) (hrest : Streaming k escalates Holds names arraySize rest c') :
    Lost k escalates Holds names arraySize rows (upToRaised (rows.take bound)) (.warning w) c' := by
  obtain ⟨hlt, -, hdrop⟩ := take_drop_of_cons hleft
  obtain ⟨more, hbound⟩ : ∃ more, bound = read.length + (more + 1) :=
    ⟨bound - read.length - 1, by omega⟩
  have hblock : upToRaised (rows.take bound) = rows.take read.length ++ [r] := by
    rw [hbound, List.take_add, hleft, upToRaised_append_of_none h.calm]
    simp [upToRaised, hr]
  have hlength : (rows.take read.length ++ [r]).length = read.length + 1 := by
    rw [List.length_append, List.length_take_of_le (by omega), List.length_singleton]
  rw [hblock]
  constructor
  · refine ⟨w, ?_, rfl⟩
    rw [raised?_append_of_none h.calm]
    simpa [raised?] using hr
  · rw [hlength, hdrop]
    exact hrest

omit [Session σ] in
/-- Rows that were read up to a bound, or to the end, are the block that was to be taken. -/
theorem HasTaken.took {bound : Nat} {read : List (List Value)}
    (h : HasTaken k escalates Holds names arraySize rows read c)
    (hend : rows.take bound = rows.take read.length) (hle : read.length ≤ rows.length) :
    Took k escalates Holds names arraySize rows (upToRaised (rows.take bound)) read c := by
  have hblock : upToRaised (rows.take bound) = rows.take read.length := by
    rw [hend, upToRaised_eq_self h.calm]
  have hlength : (rows.take read.length).length = read.length := List.length_take_of_le hle
  rw [hblock]
  refine ⟨h.calm, h.eq_take, ?_⟩
  rw [hlength]
  exact h.streaming

/-- A row more is read as long as there are less than the bound, or it raises. -/
theorem meets_readRowsStep (hstreams : Streams escalates Holds) (rows : List DeliveredRow)
    {wanted : Nat → Except CompareError Bool} {bound : Nat} (read : List (List Value))
    (hwanted : wanted read.length = .ok (decide (read.length < bound)))
    (hle : read.length ≤ min bound rows.length) :
    Meets (HasTaken k escalates Holds names arraySize rows read)
      (k.readRowsStep wanted read : Op σ (ForInStep (List (List Value))))
      (fun r c => match r with
        | .done read => Took k escalates Holds names arraySize rows (upToRaised (rows.take bound))
          read c
        | .yield read => read.length ≤ min bound rows.length ∧
          HasTaken k escalates Holds names arraySize rows read c)
      (Lost k escalates Holds names arraySize rows (upToRaised (rows.take bound))) := by
  intro c hc
  have hstreaming := hc.streaming
  unfold readRowsStep
  rw [hwanted]
  by_cases hmore : read.length < bound
  · rw [decide_eq_true hmore]
    have hsplit : rows.take bound =
        rows.take read.length ++ (rows.drop read.length).take (bound - read.length) := by
      rw [← List.take_add]
      congr 1
      omega
    cases hleft : rows.drop read.length with
    | nil =>
        -- the result set ends before the bound
        rw [hleft] at hstreaming hsplit
        obtain ⟨c', hread, hended⟩ := readRow_of_end hstreams hstreaming
        show Ends _ _ ((k.readRow >>= _) c)
        rw [bind_of_ok _ hread]
        refine HasTaken.took ⟨hc.eq_take, hc.calm, ?_⟩ ?_ (by omega)
        · rw [hleft]
          exact hended
        · simpa using hsplit
    | cons r rest =>
        rw [hleft] at hstreaming
        cases hr : r.warning with
        | none =>
            obtain ⟨c', hread, hrest⟩ := readRow_of_calm hstreams hstreaming hr
            have hlt := (take_drop_of_cons hleft).1
            show Ends _ _ ((k.readRow >>= _) c)
            rw [bind_of_ok _ hread]
            refine ⟨?_, hc.read hleft hr hrest⟩
            rw [List.length_append, List.length_singleton]
            omega
        | some w =>
            obtain ⟨c', hread, hrest⟩ := readRow_of_raised hstreams hstreaming hr
            show Ends _ _ ((k.readRow >>= _) c)
            rw [bind_of_error _ hread]
            exact hc.lost hleft hmore hr hrest
  · -- the bound is reached, and no row is read
    rw [decide_eq_false hmore]
    have hbound : bound = read.length := by omega
    exact hc.took (by rw [hbound]) (by omega)

/-- Rows are read up to a bound, to the end of the result set, or until one raises. -/
theorem meets_readRows (hstreams : Streams escalates Holds) (rows : List DeliveredRow)
    {wanted : Nat → Except CompareError Bool} {bound : Nat}
    (hwanted : ∀ n ≤ rows.length, wanted n = .ok (decide (n < bound))) :
    Meets (Streaming k escalates Holds names arraySize rows)
      (k.readRows wanted : Op σ (List (List Value)))
      (Took k escalates Holds names arraySize rows (upToRaised (rows.take bound)))
      (Lost k escalates Holds names arraySize rows (upToRaised (rows.take bound))) := by
  have hloop : Meets (fun c => ([] : List (List Value)).length ≤ min bound rows.length ∧
      HasTaken k escalates Holds names arraySize rows [] c)
      (k.readRows wanted : Op σ (List (List Value)))
      (Took k escalates Holds names arraySize rows (upToRaised (rows.take bound)))
      (Lost k escalates Holds names arraySize rows (upToRaised (rows.take bound))) := by
    refine .looping (I := fun read c => read.length ≤ min bound rows.length ∧
      HasTaken k escalates Holds names arraySize rows read c) (fun read => ?_) []
    intro c hc
    refine (meets_readRowsStep hstreams rows read (hwanted read.length (by omega)) hc.1).weaken
      (fun _ htaken => htaken) (fun r d hr => ?_) (fun _ _ he => he) c hc.2
    cases r with
    | done read => exact hr
    | yield read => exact hr
  exact hloop.strengthen fun c hc => ⟨Nat.zero_le _, .start hc⟩

/-! ## Fetching -/

omit [Session σ] in
/-- At a result set rows can be asked for. -/
theorem Streaming.checkResults (h : Streaming k escalates Holds names arraySize rows c) :
    k.checkResults c = .ok () c := by
  have hopen : (k.recordIn c).state ≠ .closed := by
    rw [h.state]
    exact nofun
  refine bind_eq_ok.2 ⟨_, _, h.ready.check hopen, bind_eq_ok.2 ⟨_, _, rfl, ?_⟩⟩
  rw [Option.isNone_eq_false_iff.2 h.described]
  rfl

omit [Session σ] in
/-- At a result set the names of its columns are known. -/
theorem Streaming.columnNames (h : Streaming k escalates Holds names arraySize rows c) :
    k.columnNames c = .ok names c := by
  refine bind_eq_ok.2 ⟨_, _, rfl, ?_⟩
  rw [h.names]
  rfl

/-- A fetch has returned the rows of its block, none of which raised anything, and what follows
the block is left. -/
structure Answered (k : Cursor) (escalates : Bool) (Holds : σ → List StreamedRow → Prop)
    (names : List String) (arraySize : Int) (rows : List DeliveredRow) (f : Fetch)
    (answer : Answer) (c : Connection σ) : Prop where
  calm : raised? (f.block rows) = none
  eq_answer : answer = f.answer names ((f.block rows).map (·.values))
  streaming : Streaming k escalates Holds names arraySize (rows.drop (f.block rows).length) c

omit [Session σ] in
/-- A fetch that has read its block returns it. -/
theorem Took.answered {f : Fetch} {read : List (List Value)}
    (h : Took k escalates Holds names arraySize rows (f.block rows) read c) :
    Answered k escalates Holds names arraySize rows f (f.answer names read) c :=
  ⟨h.calm, congrArg (f.answer names) h.eq_values, h.streaming⟩

/-- The rows of a fetch, read one after the other up to its bound. -/
theorem meets_readRows_of_count (hstreams : Streams escalates Holds) (rows : List DeliveredRow)
    (f : Fetch) {wanted : Nat → Except CompareError Bool} {bound : Nat}
    (hcount : f.count rows.length = min bound rows.length)
    (hwanted : ∀ n ≤ rows.length, wanted n = .ok (decide (n < bound))) :
    Meets (Streaming k escalates Holds names arraySize rows)
      (k.readRows wanted : Op σ (List (List Value)))
      (Took k escalates Holds names arraySize rows (f.block rows))
      (Lost k escalates Holds names arraySize rows (f.block rows)) := by
  have hblock : f.block rows = upToRaised (rows.take bound) := by
    have htake : rows.take (f.count rows.length) = rows.take bound := by
      rw [List.take_eq_take_iff]
      omega
    rw [Fetch.block, htake]
  rw [hblock]
  exact meets_readRows hstreams rows hwanted

omit [Session σ] in
/-- The names of the columns are put to the rows that were read. -/
theorem meets_named {block : List DeliveredRow} (read : List (List Value)) :
    Meets (Took k escalates Holds names arraySize rows block read)
      (k.columnNames : Op σ (List String))
      (fun known c => known = names ∧ Took k escalates Holds names arraySize rows block read c)
      (Lost k escalates Holds names arraySize rows block) := by
  intro c hc
  rw [hc.streaming.columnNames]
  exact ⟨rfl, hc⟩

/-- Rows that are fetched together are put in a list. -/
theorem meets_fetchWhile (hstreams : Streams escalates Holds) (rows : List DeliveredRow)
    (f : Fetch) {wanted : Nat → Except CompareError Bool} {bound : Nat}
    (hcount : f.count rows.length = min bound rows.length)
    (hwanted : ∀ n ≤ rows.length, wanted n = .ok (decide (n < bound))) :
    Meets (Streaming k escalates Holds names arraySize rows) (k.fetchWhile wanted : Op σ RowList)
      (fun l c => ∃ read, l = .ofValues names read ∧
        Took k escalates Holds names arraySize rows (f.block rows) read c)
      (Lost k escalates Holds names arraySize rows (f.block rows)) := by
  refine .bind (meets_readRows_of_count hstreams rows f hcount hwanted) fun read => ?_
  refine .bind (meets_named read) fun known => .pure fun c hc => ?_
  exact ⟨read, by rw [hc.1], hc.2⟩

omit [Session σ] in
/-- Looking whether there is a result set finds one, and changes nothing. -/
theorem looks_checkResults {fail : Error → Connection σ → Prop} :
    Meets (Streaming k escalates Holds names arraySize rows) (k.checkResults : Op σ Unit)
      (fun _ => Streaming k escalates Holds names arraySize rows) fail := by
  intro c hc
  rw [hc.checkResults]
  exact hc

/-- As many rows are fetched as are asked for, none if their number is negative. -/
theorem meets_fetchMany (hstreams : Streams escalates Holds) (rows : List DeliveredRow)
    (size : Option Int) :
    Meets (Streaming k escalates Holds names arraySize rows)
      (k.fetchMany (size.elim .null .int) : Op σ RowList)
      (fun l c => ∃ read, l = .ofValues names read ∧
        Took k escalates Holds names arraySize rows
          ((Fetch.many (size.getD arraySize)).block rows) read c)
      (Lost k escalates Holds names arraySize rows
        ((Fetch.many (size.getD arraySize)).block rows)) := by
  refine .bind looks_checkResults fun _ => .afterLook fun r => ?_
  intro c hc
  obtain ⟨hstreaming, rfl⟩ := hc
  have hsize : fetchSize (k.recordIn c) (size.elim .null .int) = .int (size.getD arraySize) := by
    cases size with
    | none => exact congrArg Value.int hstreaming.arraySize
    | some n => rfl
  rw [hsize]
  have hwanted : ∀ m ≤ rows.length, (Value.int m).less (.int (size.getD arraySize)) =
      .ok (decide (m < (max (size.getD arraySize) 0).toNat)) := by
    intro m _
    rw [Value.less_int]
    exact congrArg Except.ok (decide_eq_decide.2 (by omega))
  exact meets_fetchWhile hstreams rows (.many (size.getD arraySize)) rfl hwanted c hstreaming

/-- The next row is fetched, if there is one. -/
theorem meets_fetchOne (hstreams : Streams escalates Holds) (rows : List DeliveredRow) :
    Meets (Streaming k escalates Holds names arraySize rows)
      (CursorAction.fetchOne.perform k : Op σ Answer)
      (Answered k escalates Holds names arraySize rows .one)
      (Lost k escalates Holds names arraySize rows (Fetch.one.block rows)) := by
  intro c hc
  cases rows with
  | nil =>
      obtain ⟨c', hread, hended⟩ := readRow_of_end hstreams hc
      have hfetch : CursorAction.fetchOne.perform k c = .ok .nothing c' :=
        bind_eq_ok.2 ⟨_, _, bind_eq_ok.2 ⟨_, _, hc.checkResults,
          bind_eq_ok.2 ⟨_, _, hread, rfl⟩⟩, rfl⟩
      rw [hfetch]
      exact ⟨rfl, rfl, hended⟩
  | cons r rest =>
      have hblock := Fetch.block_one_cons r rest
      cases hr : r.warning with
      | none =>
          obtain ⟨c', hread, hrest⟩ := readRow_of_calm hstreams hc hr
          have hfetch : CursorAction.fetchOne.perform k c = .ok (.row ⟨names, r.values⟩) c' :=
            bind_eq_ok.2 ⟨_, _, bind_eq_ok.2 ⟨_, _, hc.checkResults,
              bind_eq_ok.2 ⟨_, _, hread, bind_eq_ok.2 ⟨_, _, hrest.columnNames, rfl⟩⟩⟩, rfl⟩
          rw [hfetch]
          refine ⟨?_, ?_, ?_⟩
          · simp [hblock, raised?, hr]
          · rw [hblock]
            rfl
          · rw [hblock]
            exact hrest
      | some w =>
          obtain ⟨c', hread, hrest⟩ := readRow_of_raised hstreams hc hr
          have hfetch : CursorAction.fetchOne.perform k c = .error (.warning w) c' := by
            refine bind_of_error _ ?_
            show (k.checkResults >>= _) c = _
            rw [bind_of_ok _ hc.checkResults]
            exact bind_of_error _ hread
          rw [hfetch]
          refine ⟨⟨w, ?_, rfl⟩, ?_⟩
          · simp [hblock, raised?, hr]
          · rw [hblock]
            exact hrest

/-- A call returns the rows of its block, or raises and loses them. -/
theorem meets_perform (hstreams : Streams escalates Holds) (rows : List DeliveredRow)
    (call : RowCall) :
    Meets (Streaming k escalates Holds names arraySize rows) (call.action.perform k : Op σ Answer)
      (Answered k escalates Holds names arraySize rows (call.fetch arraySize))
      (Lost k escalates Holds names arraySize rows ((call.fetch arraySize).block rows)) := by
  cases call with
  | one => exact meets_fetchOne hstreams rows
  | many size =>
      have hanswer : Meets (Streaming k escalates Holds names arraySize rows)
          (k.fetchMany (size.elim .null .int) >>= fun l => pure (Answer.rowList l) : Op σ Answer)
          (Answered k escalates Holds names arraySize rows (.many (size.getD arraySize)))
          (Lost k escalates Holds names arraySize rows
            ((Fetch.many (size.getD arraySize)).block rows)) := by
        refine .bind (meets_fetchMany hstreams rows size) fun l => .pure fun c hc => ?_
        obtain ⟨read, rfl, htook⟩ := hc
        exact htook.answered
      cases size with
      | none => exact hanswer
      | some n => exact hanswer
  | all =>
      have hcount : Fetch.all.count rows.length = min (rows.length + 1) rows.length := by
        show rows.length = _
        omega
      refine .bind (.bind looks_checkResults fun _ =>
        meets_fetchWhile hstreams rows .all hcount (wanted_unbounded _))
          fun l => .pure fun c hc => ?_
      obtain ⟨read, rfl, htook⟩ := hc
      exact htook.answered
  | next =>
      have hiterate : Meets (Streaming k escalates Holds names arraySize rows)
          (k.iterate (some 1) : Op σ (List Row))
          (fun l c => ∃ read, l = read.map (Row.mk names) ∧
            Took k escalates Holds names arraySize rows ((Fetch.iterate (some 1)).block rows)
              read c)
          (Lost k escalates Holds names arraySize rows ((Fetch.iterate (some 1)).block rows)) := by
        refine .bind looks_checkResults fun _ => .bind
          (meets_readRows_of_count hstreams rows (.iterate (some 1)) rfl fun _ _ => rfl)
            fun read => .bind (meets_named read) fun known => .pure fun c hc => ?_
        exact ⟨read, by rw [hc.1], hc.2⟩
      refine .bind hiterate fun l => .pure fun c hc => ?_
      obtain ⟨read, rfl, htook⟩ := hc
      exact htook.answered

/-- What a program is told by a call is the outcome of its fetch, and the rows behind the block are
left. -/
theorem told_of_streaming (hstreams : Streams escalates Holds)
    (h : Streaming k escalates Holds names arraySize rows c) (call : RowCall) :
    (k.told call.action c).1 = (call.fetch arraySize).outcome names rows ∧
      Streaming k escalates Holds names arraySize
        (rows.drop ((call.fetch arraySize).block rows).length) (k.told call.action c).2 := by
  have hends := meets_perform hstreams rows call c h
  cases hperformed : call.action.perform k c with
  | ok answer c' =>
      rw [hperformed] at hends
      obtain ⟨hcalm, rfl, hstreaming⟩ := hends
      rw [told_of_ok hperformed]
      refine ⟨?_, hstreaming⟩
      simp only [Fetch.outcome, hcalm]
  | error e c' =>
      rw [hperformed] at hends
      obtain ⟨⟨w, hraised, rfl⟩, hstreaming⟩ := hends
      rw [told_of_error hperformed]
      refine ⟨?_, hstreaming⟩
      simp only [Fetch.outcome, hraised]

/-! ## Runs -/

/-- What a program is told by calls one after the other. -/
def tellings (k : Cursor) : List RowCall → Connection σ → List (Except Error Answer)
  | [], _ => []
  | call :: rest, c => (k.told call.action c).1 :: k.tellings rest (k.told call.action c).2

/-- Calls in a row return or raise what is due for the blocks that they take. -/
theorem tellings_of_streaming (hstreams : Streams escalates Holds)
    (h : Streaming k escalates Holds names arraySize rows c) (calls : List RowCall) :
    k.tellings calls c = outcomes names (calls.map (RowCall.fetch arraySize)) rows := by
  induction calls generalizing rows c with
  | nil => rfl
  | cons call rest ih =>
      obtain ⟨htold, hleft⟩ := told_of_streaming hstreams h call
      rw [tellings, htold, ih hleft]
      rfl

/-- In every run, when a usable cursor is at a result set whose rows come with messages that only
inform, each of the calls that follow takes a block of rows: the rows it asks for, or those up to
the first with a message that is raised. A call returns its block, or raises and loses it. The
blocks are the first rows of the result set, one block after the other, and the rows returned are
those of the blocks that raised nothing. -/
theorem fetches_take_blocks (hc : Reachable c) (hk : c.Has k) (husable : c.fault? = none)
    (hstate : (k.recordIn c).state = .hasResults) (hstreams : Streams c.escalates Holds)
    {streamed : List StreamedRow} (hholds : Holds c.session streamed)
    (hrows : List.Forall₂ (Delivers (k.recordIn c) c.escalates) streamed rows) :
    ∃ names, (k.recordIn c).columnNames = some names ∧ ∀ calls fetches,
      fetches = calls.map (RowCall.fetch (k.recordIn c).arraySize) →
      k.tellings calls c = outcomes names fetches rows ∧
      (k.tellings calls c).flatMap View.rowsIn =
        ((blocks fetches rows).filter fun b => (raised? b).isNone).flatten.map (·.values) ∧
      (blocks fetches rows).flatten <+: rows ∧
      ∀ block ∈ blocks fetches rows, ∀ w, raised? block = some w →
        ∃ before r, block = before ++ [r] ∧ raised? before = none ∧ r.warning = some w := by
  have hcoherent := hc.coherent.records k
  obtain ⟨names, hnames⟩ := Option.isSome_iff_exists.1 (hcoherent.isSome_columnNames.2 hstate)
  have hstreaming : Streaming k c.escalates Holds names (k.recordIn c).arraySize rows c :=
    ⟨⟨hk, husable, rfl⟩, hstate, hcoherent.described.2 hstate, hnames, rfl, streamed, hholds,
      hrows⟩
  refine ⟨names, hnames, ?_⟩
  rintro calls _ rfl
  have htellings := tellings_of_streaming hstreams hstreaming calls
  refine ⟨htellings, ?_, flatten_blocks_isPrefix _ _, ?_⟩
  · rw [htellings, rowsIn_outcomes]
  · intro block hblock w hw
    exact raised_last_of_mem_blocks hblock hw

/-- What a server says about a sum that leaves out a null. -/
def nullEliminated : Message := ⟨8153, 1, 10, "Null value is eliminated by an aggregate", "", "", 1⟩

/-- A server that computes two sums, of which the first leaves out a null. -/
def summingServer : ScriptedSession where
  responses :=
    [("SELECT", {
      results := [{
        columns := some [⟨"a", .intN, 4, 0, 0, true, false⟩]
        rows := [⟨[.int 1], { messages := [nullEliminated] }⟩, ⟨[.int 2], {}⟩] }] })]

/-- A connection that raises warnings, and a cursor at the sums. -/
def summing : Connection ScriptedSession :=
  (ConnectionOptions.connection
    { autocommit := .bool true, ansiDefaults := .bool false, escalation := .bool true }
    summingServer).runAll [.openCursor, .onCursor ⟨0⟩ (.execute "SELECT" .null)]

theorem reachable_summing : Reachable summing := by
  have hopened : Reachable (ConnectionOptions.connection
      { autocommit := .bool true, ansiDefaults := .bool false, escalation := .bool true }
      summingServer) :=
    .opened { autocommit := .bool true, ansiDefaults := .bool false, escalation := .bool true }
      summingServer rfl
  have hcursor := hopened.performed .openCursor trivial
  exact hcursor.performed (.onCursor ⟨0⟩ (.execute "SELECT" .null))
    (show 0 < List.length _ by decide +kernel)

/-- The sums as a program would see them: the first one comes with a warning. -/
def summed : List DeliveredRow := [⟨[.int 1], some (.ofMessage nullEliminated)⟩, ⟨[.int 2], none⟩]

/-- Of three fetches the first one raises and loses a row, the second one returns the other row, and
the third one finds none. -/
theorem fetches_take_blocks_summing :
    summing.Has ⟨0⟩ ∧ summing.fault? = none ∧ (Cursor.recordIn ⟨0⟩ summing).state = .hasResults ∧
      (tellings ⟨0⟩ [.one, .one, .one] summing).flatMap View.rowsIn =
        ((blocks [.one, .one, .one] summed).filter fun b =>
          (raised? b).isNone).flatten.map (·.values) := by
  have hhas : summing.Has ⟨0⟩ := show 0 < List.length _ by decide +kernel
  have hstate : (Cursor.recordIn ⟨0⟩ summing).state = .hasResults := by decide +kernel
  have hholds : summing.session.IsStreaming [⟨[.int 1], [nullEliminated]⟩, ⟨[.int 2], []⟩] :=
    { current := by decide +kernel
      rows := by with_unfolding_all rfl
      succeeds := by
        have hall : summing.session.rows.all (·.playback.failure.isNone) = true := by
          decide +kernel
        exact fun row hrow => Option.isNone_iff_eq_none.1 (List.all_eq_true.1 hall row hrow) }
  have hdelivers : List.Forall₂ (Delivers (Cursor.recordIn ⟨0⟩ summing) summing.escalates)
      [⟨[.int 1], [nullEliminated]⟩, ⟨[.int 2], []⟩] summed := by
    have hescalates : summing.escalates = true := by decide +kernel
    have hconversions : (Cursor.recordIn ⟨0⟩ summing).conversions = some [none] := by
      decide +kernel
    rw [hescalates]
    exact .cons ⟨⟨_, hconversions, rfl⟩, by decide, rfl⟩
      (.cons ⟨⟨_, hconversions, rfl⟩, by decide, rfl⟩ .nil)
  obtain ⟨names, hnames, htakes⟩ := fetches_take_blocks reachable_summing hhas (by decide +kernel)
    hstate (ScriptedSession.streams_isStreaming _) hholds hdelivers
  exact ⟨hhas, by decide +kernel, hstate, (htakes [.one, .one, .one] _ rfl).2.1⟩

/-- A fetch that raises consumes a row: a fetch raises the warning that comes with the first row,
the next one returns the second row, and no row is left. So the rows returned are not the first
ones. -/
theorem fetch_loses_row_summing :
    tellings ⟨0⟩ [.one, .one, .one] summing =
        [.error (.warning (.ofMessage nullEliminated)), .ok (.row ⟨["a"], [.int 2]⟩),
          .ok .nothing] ∧
      summing.session.rows.map (·.values) = [[.int 1], [.int 2]] ∧
      ¬ (tellings ⟨0⟩ [.one, .one, .one] summing).flatMap View.rowsIn <+:
        summing.session.rows.map (·.values) := by
  have htold : tellings ⟨0⟩ [.one, .one, .one] summing =
      [.error (.warning (.ofMessage nullEliminated)), .ok (.row ⟨["a"], [.int 2]⟩),
        .ok .nothing] := by
    with_unfolding_all rfl
  have hrows : summing.session.rows.map (·.values) = [[.int 1], [.int 2]] := by
    with_unfolding_all rfl
  refine ⟨htold, hrows, ?_⟩
  rw [htold, hrows]
  show ¬ [[Value.int 2]] <+: _
  simp

end TdsClient.Cursor
