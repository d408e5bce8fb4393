import TdsClient.Cursor.Execution
import TdsClient.Cursor.Fetching
import TdsClient.Proofs.Connection.Footprint
import TdsClient.Proofs.Statement.Call

/-!
# The footprint of a cursor's operations

A cursor submits the requests of its statement and reads responses; this is
all that it uses the session for, and it never sets the mode.

## Main results

* `uses_execute`, `uses_executeMany`, `uses_callProcedure` — statements.
* `uses_nextSet`, `uses_readRows` — results and rows are only read.
-/

namespace TdsClient

/-- What comes of items comes of one of them each. -/
theorem Reported.exists_of_mem {α β : Type} {f : α → Reported β} {items : List α}
    {results : List β} (h : (items.mapM f).result = .ok results) {b : β} (hb : b ∈ results) :
    ∃ a ∈ items, (f a).result = .ok b := by
  have hall := forall₂_of_mapM h
  clear h
  induction hall with
  | nil => cases hb
  | cons hfirst _ ih =>
      rcases List.mem_cons.1 hb with rfl | hb
      · exact ⟨_, List.mem_cons_self .., hfirst⟩
      · obtain ⟨a, ha, hresult⟩ := ih hb
        exact ⟨a, List.mem_cons_of_mem _ ha, hresult⟩

namespace Cursor

open Connection Op

variable {σ α : Type} [Session σ] {L : Licence} {k : Cursor}

/-! ## What has nothing to do with the session -/

theorem uses_change (k : Cursor) (f : CursorRecord → CursorRecord) :
    Uses L (k.change f : Op σ Unit) :=
  Uses.sparing (fun _ => rfl) fun _ => rfl

theorem uses_check (k : Cursor) : Uses L (k.check : Op σ Unit) := by
  refine Uses.afterLook fun r => ?_
  split
  · exact .bind (Q := fun _ _ => False) (.throwing fun _ _ => trivial) fun _ => fun _ hc => hc.elim
  · exact uses_checkUsable

theorem uses_checkResults (k : Cursor) : Uses L (k.checkResults : Op σ Unit) := by
  refine .bind (uses_check k) fun _ => Uses.afterLook fun r => ?_
  split
  · exact Uses.throwing _
  · exact Uses.pure ()

/-- What is known of a result is known if the result set would be lost without it. -/
theorem usesFor_protect {op : Op σ α} {Q : α → Prop} (h : UsesFor L op Q) :
    UsesFor L (k.protect op) Q :=
  .catching h fun _ => .bind (uses_change k _) fun _ => .throwing fun _ _ => trivial

theorem uses_protect {op : Op σ α} (h : Uses L op) : Uses L (k.protect op) :=
  usesFor_protect (Q := fun _ => True) h

theorem uses_close (k : Cursor) : Uses L (k.close : Op σ Unit) := by
  refine Uses.afterLook fun r => ?_
  split
  · exact Uses.pure ()
  · refine .bind (uses_change k _) fun _ => Uses.sparing (fun c => ?_) fun c => ?_
    · unfold Connection.release
      split <;> rfl
    · unfold Connection.release
      split <;> rfl

theorem uses_columnNames (k : Cursor) : Uses L (k.columnNames : Op σ (List String)) := by
  refine Uses.afterLook fun r => ?_
  split
  · exact Uses.pure _
  · exact Uses.throwing _

/-! ## Requests -/

theorem uses_begin (k : Cursor) : Uses L (k.begin : Op σ Unit) :=
  .bind (uses_check k) fun _ => .bind (uses_beginStatement _) fun _ => uses_change k _

theorem uses_submit (k : Cursor) {r : Request} (hr : L.use r.use) :
    Uses L (k.submit r : Op σ Unit) :=
  .bind (uses_submitFor _ hr) fun _ => Uses.afterGet fun _ => uses_change k _

section reading

variable (hread : ∀ call : SessionCall, call.isRead = true → L.use call)
include hread

/-! ## Reading -/

theorem uses_advance (k : Cursor) : Uses L (k.advance : Op σ Bool) := by
  refine .repeating (fun _ => ?_) false
  refine .bind (uses_nextResult hread) fun columns => ?_
  cases columns with
  | none => exact .bind (Uses.afterGet fun _ => uses_change k _) fun _ => Uses.pure _
  | some columns =>
      refine .bind (Uses.afterGet fun _ => uses_change k _) fun _ => ?_
      cases columns with
      | nil => exact Uses.pure _
      | cons column rest =>
          refine .bind (Uses.afterGet fun _ => ?_) fun _ => Uses.pure _
          exact .bind (Uses.ofExcept _).uses fun _ => uses_change k _

theorem uses_readRow (k : Cursor) : Uses L (k.readRow : Op σ (Option (List Value))) := by
  refine Uses.afterLook fun r => ?_
  split
  · exact Uses.pure _
  · refine .bind (uses_fetchRow hread) fun row => ?_
    cases row with
    | none => exact .bind (Uses.afterGet fun _ => uses_change k _) fun _ => Uses.pure _
    | some values =>
        refine Uses.afterLook fun known => ?_
        cases known.conversions with
        | none => exact Uses.throwing _
        | some conversions =>
            exact .bind (uses_change k _) fun _ =>
              .bind (Uses.ofExcept _).uses fun _ => Uses.pure _

theorem uses_readRows (k : Cursor) (wanted : Nat → Except CompareError Bool) :
    Uses L (k.readRows wanted : Op σ (List (List Value))) := by
  refine .repeating (fun rows => ?_) []
  refine .bind (Uses.ofExcept _).uses fun more => ?_
  cases more with
  | false => exact Uses.pure _
  | true =>
      refine .bind (uses_readRow hread k) fun row => ?_
      cases row with
      | none => exact Uses.pure _
      | some values => exact Uses.pure _

theorem uses_discardRows (k : Cursor) : Uses L (k.discardRows : Op σ Unit) :=
  .bind (uses_readRows hread k _) fun _ => Uses.pure ()

theorem uses_discardResults (k : Cursor) : Uses L (k.discardResults : Op σ Unit) := by
  refine .repeating (fun _ => ?_) ()
  refine .bind (uses_advance hread k) fun found => ?_
  cases found with
  | false => exact Uses.pure _
  | true => exact .bind (uses_discardRows hread k) fun _ => Uses.pure _

theorem uses_fetchWhile (k : Cursor) (wanted : Nat → Except CompareError Bool) :
    Uses L (k.fetchWhile wanted : Op σ RowList) :=
  .bind (uses_readRows hread k wanted) fun _ => .bind (uses_columnNames k) fun _ => Uses.pure _

theorem uses_fetchOne (k : Cursor) : Uses L (k.fetchOne : Op σ (Option Row)) := by
  refine .bind (uses_checkResults k) fun _ => .bind (uses_readRow hread k) fun row => ?_
  cases row with
  | none => exact Uses.pure _
  | some values => exact .bind (uses_columnNames k) fun _ => Uses.pure _

theorem uses_fetchMany (k : Cursor) (size : Value) :
    Uses L (k.fetchMany size : Op σ RowList) :=
  .bind (uses_checkResults k) fun _ => Uses.afterLook fun _ => uses_fetchWhile hread k _

theorem uses_fetchAll (k : Cursor) : Uses L (k.fetchAll : Op σ RowList) :=
  .bind (uses_checkResults k) fun _ => uses_fetchWhile hread k _

theorem uses_iterate (k : Cursor) (limit : Option Nat) :
    Uses L (k.iterate limit : Op σ (List Row)) :=
  .bind (uses_checkResults k) fun _ => .bind (uses_readRows hread k _) fun _ =>
    .bind (uses_columnNames k) fun _ => Uses.pure _

theorem uses_nextSet (k : Cursor) : Uses L (k.nextSet : Op σ Bool) := by
  refine .bind (uses_check k) fun _ => Uses.afterLook fun r => ?_
  split
  · refine uses_protect (.bind (uses_discardRows hread k) fun _ =>
      .bind (uses_advance hread k) fun found => ?_)
    cases found with
    | false => exact Uses.pure _
    | true => exact .bind (uses_change k _) fun _ => Uses.pure _
  · exact Uses.pure _

/-! ## Statements -/

theorem uses_run (k : Cursor) {r : Request} (hr : L.use r.use) : Uses L (k.run r : Op σ Unit) :=
  uses_protect (.bind (uses_submit k hr) fun _ => .bind (uses_advance hread k) fun _ =>
    Uses.pure ())

theorem uses_runAll (k : Cursor) (total : Int) (reliable : Bool) {requests : List Request}
    (hrequests : ∀ r ∈ requests, L.use r.use) :
    Uses L (k.runAll total reliable requests : Op σ (Int × Bool)) := by
  induction requests generalizing total reliable with
  | nil => exact Uses.pure _
  | cons r rest ih =>
      obtain ⟨hr, hrest⟩ := List.forall_mem_cons.1 hrequests
      refine .bind (uses_submit k hr) fun _ => Uses.afterLook fun _ => ?_
      refine .bind (uses_discardResults hread k) fun _ => Uses.afterLook fun _ => ?_
      exact ih _ _ hrest

/-- A statement submits the request that it is bound to. -/
theorem uses_execute (k : Cursor) {sql : String} {parameters : Value}
    (hrequest : ∀ i style r, (Request.ofStatement i style true sql parameters).result = .ok r →
      L.use r.use) : Uses L (k.execute sql parameters : Op σ Unit) := by
  refine .bind (uses_begin k) fun _ => Uses.afterGet fun d => ?_
  exact Uses.bindFor (usesFor_protect (uses_announce _)) fun r hr =>
    uses_run hread k (hrequest _ _ r hr)

/-- A statement that is repeated submits the requests that it is bound to with the items. -/
theorem uses_executeMany (k : Cursor) {sql : String} {items : Value}
    (hrequest : ∀ i style, ∀ item ∈ items.items?.getD [], ∀ r,
      (Request.ofStatement i style false sql item).result = .ok r → L.use r.use) :
    Uses L (k.executeMany sql items : Op σ Unit) := by
  refine .bind (uses_begin k) fun _ => ?_
  cases hitems : items.items? with
  | none => exact Uses.throwing _
  | some given =>
      rw [hitems] at hrequest
      refine Uses.afterGet fun d => .bind (Uses.ofExcept _).uses fun _ => ?_
      refine Uses.bindFor (uses_announce _) fun requests hbound => ?_
      have hall : ∀ r ∈ requests, L.use r.use := by
        intro r hr
        obtain ⟨item, hitem, hthis⟩ := Reported.exists_of_mem hbound hr
        exact hrequest _ _ item hitem r hthis
      exact .bind (uses_protect (uses_runAll hread k _ _ hall)) fun _ => uses_change k _

/-- A procedure is called as the request that it is bound to says. -/
theorem uses_callProcedure (k : Cursor) {procedure : String} {arguments : Value}
    (hrequest : ∀ i r, (Request.ofProcedure i procedure arguments).result = .ok r →
      L.use r.use) : Uses L (k.callProcedure procedure arguments : Op σ Value) := by
  refine .bind (uses_begin k) fun _ => Uses.afterGet fun d => ?_
  refine Uses.bindFor (usesFor_protect (uses_announce _)) fun r hr => ?_
  refine .bind (uses_run hread k (hrequest _ r hr)) fun _ => Uses.afterLook fun _ => ?_
  split
  · split
    · exact .bind (uses_warn _) fun _ => Uses.pure _
    · exact Uses.pure _
  · exact Uses.afterGet fun _ => Uses.pure _

end reading

end Cursor

end TdsClient
