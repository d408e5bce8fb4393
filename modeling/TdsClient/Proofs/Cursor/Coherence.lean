import TdsClient.Proofs.Run

/-!
# What a cursor knows fits together

A cursor keeps its result set in three forms beside its state and the number
of the next row, and the connection keeps which cursor is active. Operations
update these one after the other and may fail in between. The invariants
here say that they agree at every step nevertheless: the columns are known
exactly while there is a result set, all forms tell the same columns, and a
closed connection has no active cursor.

## Main definitions

* `CursorRecord.Coherent` — what a cursor knows fits together.
* `Connection.Coherent` — so it is for all cursors.

## Main results

* `Coherent.moved` — every move keeps the invariants.
* `Reachable.coherent` — they hold in every run.
-/

namespace TdsClient

/-! ## One cursor -/

namespace CursorRecord

/-- The columns are described exactly while there is a result set, names and conversions are those
of the described columns, and only rows of a result set are numbered. -/
structure Coherent (r : CursorRecord) : Prop where
  described : r.description.isSome = true ↔ r.state = .hasResults
  names : r.columnNames = r.description.map (·.map (·.name))
  conversions : r.conversions = r.description.map (·.map fun d => Column.conversion? d.typeCode)
  numbered : r.rowNumber.isSome = true → r.state = .hasResults

/-- What two cursors know of their result sets is the same, row numbers aside. -/
structure SameSet (r r' : CursorRecord) : Prop where
  state : r'.state = r.state
  description : r'.description = r.description
  names : r'.columnNames = r.columnNames
  conversions : r'.conversions = r.conversions

variable {r r' : CursorRecord}

/-- A change that leaves the result set alone, and numbers no rows unless there is one. -/
theorem Coherent.congr (h : r.Coherent) (hsame : r.SameSet r')
    (hnumber : r'.rowNumber.isSome = true → r'.state = .hasResults) : r'.Coherent where
  described := by rw [hsame.description, hsame.state, h.described]
  names := by rw [hsame.names, hsame.description, h.names]
  conversions := by rw [hsame.conversions, hsame.description, h.conversions]
  numbered := hnumber

/-- Without columns and numbers only the state matters. -/
theorem coherent_of_blank (hstate : r.state ≠ .hasResults) (hdescription : r.description = none)
    (hnames : r.columnNames = none) (hconversions : r.conversions = none)
    (hnumber : r.rowNumber = none) : r.Coherent where
  described := by simp [hdescription, hstate]
  names := by rw [hnames, hdescription, Option.map_none]
  conversions := by rw [hconversions, hdescription, Option.map_none]
  numbered := by simp [hnumber]

theorem coherent_reset (r : CursorRecord) {state : CursorState} (hstate : state ≠ .hasResults) :
    (r.reset state).Coherent :=
  coherent_of_blank hstate rfl rfl rfl rfl

theorem coherent_begin (r : CursorRecord) : r.begin.Coherent :=
  coherent_of_blank nofun rfl rfl rfl rfl

theorem coherent_finish (r : CursorRecord) (rowCount : Int) (returnValue : Option Int) :
    (r.finish rowCount returnValue).Coherent :=
  coherent_of_blank nofun rfl rfl rfl rfl

theorem Coherent.detach (h : r.Coherent) : r.detach.Coherent := by
  unfold CursorRecord.detach
  split
  · exact h
  · exact coherent_reset r nofun

/-- A result set is reached with all three forms of its columns. -/
theorem coherent_reach (r : CursorRecord) (columns : List Column) : (r.reach columns).Coherent where
  described := by simp [reach]
  names := by simp [reach, Column.describe]
  conversions := by simp [reach, Column.conversions, Column.describe]
  numbered := by simp [reach]

/-- Without a result set there are no columns. -/
theorem Coherent.description_eq_none (h : r.Coherent) (hstate : r.state ≠ .hasResults) :
    r.description = none := by
  rw [← Option.not_isSome_iff_eq_none, h.described]
  exact hstate

theorem Coherent.rowNumber_eq_none (h : r.Coherent) (hstate : r.state ≠ .hasResults) :
    r.rowNumber = none := by
  rw [← Option.not_isSome_iff_eq_none]
  exact fun hnumber => hstate (h.numbered hnumber)

/-- The names are there exactly while there is a result set. -/
theorem Coherent.isSome_columnNames (h : r.Coherent) :
    r.columnNames.isSome = true ↔ r.state = .hasResults := by
  rw [h.names, Option.isSome_map, h.described]

theorem Coherent.isSome_conversions (h : r.Coherent) :
    r.conversions.isSome = true ↔ r.state = .hasResults := by
  rw [h.conversions, Option.isSome_map, h.described]

/-- A request that is submitted finds no columns. -/
theorem Coherent.executing (h : r.Coherent) (hstate : r.state ≠ .hasResults) (reliable : Bool) :
    Coherent { r with state := .executing, rowCountReliable := reliable } := by
  have hdescription := h.description_eq_none hstate
  refine coherent_of_blank nofun hdescription ?_ ?_ (h.rowNumber_eq_none hstate)
  · show r.columnNames = none
    rw [h.names, hdescription, Option.map_none]
  · show r.conversions = none
    rw [h.conversions, hdescription, Option.map_none]

end CursorRecord

/-! ## All cursors of a connection -/

namespace Connection

open Op Cursor

variable {σ : Type}

/-- What each cursor knows fits together, and a closed connection has no active cursor. -/
structure Coherent (c : Connection σ) : Prop where
  records : ∀ k : Cursor, (k.recordIn c).Coherent
  inactive : c.isOpen = false → c.active = none

/-- A change after which the cursor knows what fits together. -/
theorem Coherent.changed {c : Connection σ} (hc : Coherent c) {k : Cursor}
    {f : CursorRecord → CursorRecord} (hf : (f (k.recordIn c)).Coherent) :
    Coherent (c.changed k f) where
  records j := by
    unfold Connection.changed
    rcases recordIn_modifyCursor_or c k.index j f with hsame | ⟨hindex, hchanged⟩
    · rw [hsame]
      exact hc.records j
    · rw [hchanged, ← eq_of_index hindex]
      exact hf
  inactive := hc.inactive

/-- A change of a cursor that leaves its result set alone. -/
theorem Coherent.touched {c : Connection σ} (hc : Coherent c) {k : Cursor}
    {f : CursorRecord → CursorRecord} (hf : ∀ r : CursorRecord, r.SameSet (f r))
    (hnumber : (f (k.recordIn c)).rowNumber.isSome = true →
      (f (k.recordIn c)).state = .hasResults) : Coherent (c.changed k f) :=
  hc.changed ((hc.records k).congr (hf _) hnumber)

/-- Only the cursors matter, which is active, and whether the connection is open. -/
theorem Coherent.congr {c c' : Connection σ} (hc : Coherent c) (hcursors : c'.cursors = c.cursors)
    (hactive : c'.active = c.active) (hopen : c'.isOpen = c.isOpen) : Coherent c' where
  records k := by
    unfold Cursor.recordIn
    rw [hcursors]
    exact hc.records k
  inactive := by
    rw [hopen, hactive]
    exact hc.inactive

variable [Session σ]

theorem coherent_connection (o : ConnectionOptions) (session : σ) :
    Coherent (o.connection session) where
  records _ := CursorRecord.coherent_reset {} nofun
  inactive := nofun

theorem Coherent.moved {c c' : Connection σ} (hmove : Move c c') (hc : Coherent c) :
    Coherent c' := by
  cases hmove with
  | opened husable =>
      refine ⟨fun k => ?_, hc.inactive⟩
      rw [recordIn_opened]
      exact hc.records k
  | began owner husable howner =>
      refine ⟨fun k => recordIn_begun (fun r ms h => ?_) (fun r h => h.detach) _ (hc.records k), ?_⟩
      · exact h.congr ⟨rfl, rfl, rfl, rfl⟩ h.numbered
      · intro hclosed
        obtain ⟨cursors, hbegun⟩ := begun_eq c (owner.map (·.index))
        have hopen := isOpen_of_usable husable
        rw [hbegun] at hclosed
        rw [show c.isOpen = false from hclosed] at hopen
        cases hopen
  | submitted owner r husable howner => exact hc.congr rfl rfl rfl
  | advanced reader husable hreader => exact hc.congr rfl rfl rfl
  | fetched reader husable hreader => exact hc.congr rfl rfl rfl
  | copied columns declarations rows husable howner => exact hc.congr rfl rfl rfl
  | prepared k hk hactive => exact hc.changed (CursorRecord.coherent_begin _)
  | sent k reliable hk =>
      have hidle := not_hasResults_of_isIdle hk.1
      exact hc.changed ((hc.records k).executing hidle reliable)
  | reached k columns hk => exact hc.changed (CursorRecord.coherent_reach _ columns)
  | finished k count value hk => exact hc.changed (CursorRecord.coherent_finish _ count value)
  | counted k count hk =>
      exact hc.touched (fun _ => ⟨rfl, rfl, rfl, rfl⟩) (hc.records k).numbered
  | rowRead k hk =>
      exact hc.touched (fun _ => ⟨rfl, rfl, rfl, rfl⟩) fun _ => hk.2.2
  | unnumbered k hk =>
      exact hc.touched (fun _ => ⟨rfl, rfl, rfl, rfl⟩) nofun
  | totalled k count reliable hk =>
      exact hc.touched (fun _ => ⟨rfl, rfl, rfl, rfl⟩) (hc.records k).numbered
  | failed k hk => exact hc.changed (CursorRecord.coherent_reset _ nofun)
  | shut k hk => exact hc.changed (CursorRecord.coherent_reset _ nofun)
  | released k hk =>
      unfold release
      split
      · exact ⟨hc.records, fun _ => rfl⟩
      · exact hc
  | sized k n =>
      exact hc.touched (fun _ => ⟨rfl, rfl, rfl, rfl⟩) (hc.records k).numbered
  | warned text => exact hc.congr rfl rfl rfl
  | issued w hcalm => exact hc.congr rfl rfl rfl
  | modeSet value husable => exact hc.congr rfl rfl rfl
  | timeoutSet n husable => exact hc.congr rfl rfl rfl
  | escalationSet value => exact hc.congr rfl rfl rfl
  | closed hopen =>
      refine ⟨fun k => ?_, fun _ => rfl⟩
      rw [recordIn_closed]
      exact CursorRecord.coherent_reset _ nofun

end Connection

open Connection

variable {σ : Type} [Session σ]

/-- In every run, what each cursor knows fits together. -/
theorem Reachable.coherent {c : Connection σ} (hc : Reachable c) : Coherent c :=
  hc.of_move coherent_connection fun _ _ => Coherent.moved

end TdsClient
