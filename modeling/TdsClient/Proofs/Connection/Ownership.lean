import TdsClient.Connection.Options
import TdsClient.Proofs.Cursor.Walk

/-!
# Who a response belongs to

All cursors share one session, so a row belongs to whoever submitted the
last request, and a message to whoever began the last statement. The
invariants here say that the connection and its cursors keep track of both:
a cursor only reads when the last request is its own, and the messages it
keeps are those heard during its last statement.

## Main definitions

* `ReadsOwn`, `AnswersLast`, `Hearing` — the invariants.
* `Continues` — a session that still answers for the same request.

## Main results

* `Isolated.moves` — the invariants are kept.
-/

namespace TdsClient.Connection

open Cursor Journal

variable {σ : Type}

/-! ## Conditions -/

/-- A cursor reads a response only if it is the active one and submitted the last request. -/
def ReadsOwn (c : Connection σ) : Prop :=
  ∀ k : Cursor, isReading (c.stateOf k) = true →
    c.active = some k.index ∧ lastSubmitter c.journal = some (some k.index)

/-- The messages that a cursor tells. -/
def messagesFor (c : Connection σ) (k : Cursor) : List Message :=
  c.messagesOf k.index (k.recordIn c)

/-- Every cursor tells the messages heard during its last statement. -/
structure Hearing (c : Connection σ) : Prop where
  listener : c.listener = lastOwner c.journal
  present : ∀ i, c.listener = some i → i < c.cursors.length
  hears : ∀ k : Cursor, c.messagesFor k = heardBy k.index c.journal

theorem steady_readsOwn : Steady fun c : Connection σ => c.ReadsOwn := by
  intro c c' hstates hactive hlast h k hreading
  rw [hactive, hlast]
  rw [stateOf_eq, hstates, ← stateOf_eq] at hreading
  exact h k hreading

theorem has_of_isReading {c : Connection σ} {k : Cursor} (h : isReading (c.stateOf k) = true) :
    c.Has k := by
  by_cases hk : c.Has k
  · exact hk
  · unfold Has at hk
    unfold stateOf Cursor.recordIn at h
    rw [List.getElem?_eq_none (by omega)] at h
    cases h

/-- A new cursor knows nothing, as one that does not exist. -/
theorem recordIn_opened (c : Connection σ) (k : Cursor) :
    k.recordIn { c with cursors := c.cursors ++ [{}] } = k.recordIn c := by
  unfold Cursor.recordIn
  rw [List.getElem?_append]
  by_cases hlt : k.index < c.cursors.length
  · rw [if_pos hlt]
  · rw [if_neg hlt, List.getElem?_eq_none (l := c.cursors) (by omega)]
    cases k.index - c.cursors.length with
    | zero => rfl
    | succ n => rfl

/-- The cursors that read after one of them was changed. -/
theorem isReading_changed {c : Connection σ} {k : Cursor} {f : CursorRecord → CursorRecord}
    {j : Cursor} (h : isReading ((c.changed k f).stateOf j) = true) :
    (j = k ∧ isReading (f (k.recordIn c)).state = true) ∨
      (j ≠ k ∧ isReading (c.stateOf j) = true) := by
  have hj : c.Has j := (has_modifyCursor c _ _ j).1 (has_of_isReading h)
  by_cases heq : j = k
  · subst heq
    rw [stateOf_changed hj] at h
    exact .inl ⟨rfl, h⟩
  · have hne : k.index ≠ j.index := fun hindex => heq (eq_of_index hindex.symm)
    have hrecord : j.recordIn (c.changed k f) = j.recordIn c := recordIn_modifyCursor_of_ne c hne f
    rw [stateOf, hrecord] at h
    exact .inr ⟨heq, h⟩

/-- A change is harmless if the cursor then reads a response only of its own. -/
theorem ReadsOwn.changed {c : Connection σ} (hc : c.ReadsOwn) {k : Cursor}
    {f : CursorRecord → CursorRecord}
    (hf : isReading (f (k.recordIn c)).state = true →
      c.active = some k.index ∧ lastSubmitter c.journal = some (some k.index)) :
    (c.changed k f).ReadsOwn := by
  intro j hreading
  rcases isReading_changed hreading with ⟨rfl, hread⟩ | ⟨_, hread⟩
  · exact hf hread
  · exact hc j hread

/-- A change after which a cursor does not read is harmless. -/
theorem ReadsOwn.quieted {c : Connection σ} (hc : c.ReadsOwn) {k : Cursor}
    {f : CursorRecord → CursorRecord} (hf : isReading (f (k.recordIn c)).state = false) :
    (c.changed k f).ReadsOwn := by
  apply hc.changed
  intro hreading
  rw [hf] at hreading
  cases hreading

/-- Nobody reads while some cursor is idle. -/
theorem not_isReading_of_isIdle {c : Connection σ} {k j : Cursor} (hc : c.ReadsOwn)
    (hk : c.IsIdle k) : isReading (c.stateOf j) = false := by
  by_cases hreading : isReading (c.stateOf j) = true
  · have hactive := (hc j hreading).1
    rw [hk.2.1] at hactive
    rw [← eq_of_index (Option.some.inj hactive)] at hreading
    rcases hk.2.2 with hstate | hstate
    · rw [hstate] at hreading
      cases hreading
    · rw [hstate] at hreading
      cases hreading
  · simpa using hreading

variable [Session σ]

/-- All cursors lose their results when the connection is closed. -/
theorem recordIn_closed (c : Connection σ) (k : Cursor) :
    k.recordIn (closed c) = (k.recordIn c).reset .unused := by
  unfold Cursor.recordIn closed
  rw [List.getElem?_map]
  cases c.cursors[k.index]? with
  | none => rfl
  | some r => rfl

theorem ReadsOwn.moved {c c' : Connection σ} (hc : c.ReadsOwn) (hmove : Move c c') :
    c'.ReadsOwn := by
  cases hmove with
  | opened husable =>
      intro k hreading
      rw [stateOf, recordIn_opened] at hreading
      exact hc k hreading
  | began owner husable howner =>
      intro k hreading
      have hk : c.Has k := (has_begun c _ k).1 (has_of_isReading hreading)
      rw [stateOf_begun _ hk] at hreading
      split at hreading
      · cases hreading
      next hkept =>
        obtain ⟨hactive, hlast⟩ := hc k hreading
        have hclosed : c.stateOf k ≠ .closed := by
          intro hclosed
          rw [hclosed] at hreading
          cases hreading
        refine ⟨?_, (congrArg (Option.map Prod.fst) (lastSubmission_began _ _)).trans hlast⟩
        by_cases howns : c.active = owner.map (·.index)
        · exact howns ▸ hactive
        · exact absurd ⟨hactive, howns, hclosed⟩ hkept
  | submitted owner r husable howner =>
      -- Whoever may submit a request, no cursor reads the response to the one before.
      intro k hreading
      have hread : isReading (c.stateOf k) = true := hreading
      cases owner with
      | none =>
          have hactive := (hc k hread).1
          rw [show c.active = none from howner] at hactive
          cases hactive
      | some j =>
          rw [not_isReading_of_isIdle hc howner] at hread
          cases hread
  | advanced reader husable hreader =>
      exact steady_readsOwn c _ rfl rfl (lastSubmitter_append_heard _ _) hc
  | fetched reader husable hreader =>
      exact steady_readsOwn c _ rfl rfl (lastSubmitter_append_heard _ _) hc
  | copied columns declarations rows husable howner =>
      exact steady_readsOwn c _ rfl rfl (lastSubmitter_append_heard _ _) hc
  | prepared k hk hactive => exact hc.quieted rfl
  | sent k reliable hk => exact hc.changed fun _ => ⟨hk.1.2.1, hk.2⟩
  | reached k columns hk => exact hc.changed fun _ => hc k hk.2.2
  | finished k count value hk => exact hc.quieted rfl
  | counted k count hk => exact steady_readsOwn c _ (states_changed c k fun _ => rfl) rfl rfl hc
  | rowRead k hk => exact steady_readsOwn c _ (states_changed c k fun _ => rfl) rfl rfl hc
  | unnumbered k hk => exact steady_readsOwn c _ (states_changed c k fun _ => rfl) rfl rfl hc
  | totalled k count reliable hk =>
      exact steady_readsOwn c _ (states_changed c k fun _ => rfl) rfl rfl hc
  | failed k hk => exact hc.quieted rfl
  | shut k hk => exact hc.quieted rfl
  | released k hk =>
      intro j hreading
      have hread : isReading (c.stateOf j) = true := by
        unfold release at hreading
        split at hreading
        · exact hreading
        · exact hreading
      obtain ⟨hactive, hlast⟩ := hc j hread
      have hother : c.active ≠ some k.index := by
        intro hsame
        rw [hactive] at hsame
        rw [eq_of_index (Option.some.inj hsame), hk] at hread
        cases hread
      unfold release
      rw [if_neg hother]
      exact ⟨hactive, hlast⟩
  | sized k n => exact steady_readsOwn c _ (states_changed c k fun _ => rfl) rfl rfl hc
  | warned text => exact steady_readsOwn.heard _ hc
  | issued w hcalm => exact hc
  | modeSet value husable => exact hc
  | timeoutSet n husable => exact hc
  | escalationSet value => exact hc
  | closed hopen =>
      intro k hreading
      rw [stateOf, recordIn_closed] at hreading
      cases hreading

/-! ## Messages -/

omit [Session σ] in
/-- Messages are heard by the cursor that listens. -/
theorem Hearing.heard {c : Connection σ} (hc : Hearing c) (ms : List Message) :
    Hearing (c.heard ms) where
  listener := by
    rw [show (c.heard ms).listener = c.listener from rfl, hc.listener]
    exact (lastOwner_append_heard _ _).symm
  present := hc.present
  hears k := by
    have hbefore := hc.hears k
    unfold messagesFor messagesOf at hbefore ⊢
    unfold Connection.heard
    rw [heardBy_append_heard, ← hc.listener, ← hbefore]
    show (if c.listener = some k.index then c.messages ++ ms else (k.recordIn c).messages) = _
    by_cases hlistens : c.listener = some k.index
    · rw [if_pos hlistens, if_pos hlistens, if_pos hlistens]
    · rw [if_neg hlistens, if_neg hlistens, if_neg hlistens]

omit [Session σ] in
/-- A change that leaves what a cursor keeps of messages alone is not heard. -/
theorem Hearing.changed {c : Connection σ} (hc : Hearing c) (k : Cursor)
    {f : CursorRecord → CursorRecord} (hf : ∀ r, (f r).messages = r.messages) :
    Hearing (c.changed k f) where
  listener := hc.listener
  present i hi := by
    have hhas := (has_modifyCursor c k.index f ⟨i⟩).2 (hc.present i hi)
    exact hhas
  hears j := by
    have hsame := recordIn_modifyCursor c k.index j (·.messages) hf
    have hbefore := hc.hears j
    unfold messagesFor messagesOf at hbefore ⊢
    unfold Connection.changed
    rw [hsame]
    exact hbefore

omit [Session σ] in
/-- What a cursor keeps when another statement begins is what it has heard. -/
theorem messages_begun {c : Connection σ} (hc : Hearing c) (i : Option Nat) (k : Cursor) :
    (k.recordIn (c.begun i)).messages = c.messagesFor k := by
  have hkept : (k.recordIn (c.modifyCursor? c.listener fun r =>
      { r with messages := c.messages })).messages = c.messagesFor k := by
    unfold messagesFor messagesOf
    cases hlistener : c.listener with
    | none => rfl
    | some j =>
        show (k.recordIn (c.modifyCursor j _)).messages = _
        by_cases hj : j = k.index
        · subst hj
          rw [recordIn_modifyCursor_self (hc.present _ hlistener), if_pos rfl]
        · rw [recordIn_modifyCursor_of_ne c hj, if_neg fun h => hj (Option.some.inj h)]
  rw [← hkept]
  unfold begun
  generalize (c.modifyCursor? c.listener fun r => { r with messages := c.messages }) = kept
  show (k.recordIn (if c.active = i then kept
    else kept.modifyCursor? c.active CursorRecord.detach)).messages = _
  by_cases hactive : c.active = i
  · rw [if_pos hactive]
  · rw [if_neg hactive]
    cases c.active with
    | none => rfl
    | some j =>
        apply recordIn_modifyCursor kept j k (·.messages)
        intro r
        unfold CursorRecord.detach
        split
        · rfl
        · rfl

omit [Session σ] in
/-- When a statement begins, its owner has heard nothing yet. -/
theorem Hearing.begun {c : Connection σ} (hc : Hearing c) (owner : Option Cursor)
    (howner : c.MayBegin owner) : Hearing (c.begun (owner.map (·.index))) where
  listener := (lastOwner_began _ _).symm
  present i hi := by
    cases owner with
    | none => cases hi
    | some k =>
        cases hi
        exact (has_begun c _ k).2 howner.1
  hears k := by
    have hkept := messages_begun hc (owner.map (·.index)) k
    have hbefore := hc.hears k
    show (if owner.map (·.index) = some k.index then []
      else (k.recordIn (c.begun (owner.map (·.index)))).messages) =
        heardBy k.index (c.journal ++ [.began (owner.map (·.index))])
    rw [hkept, hbefore, heardBy_began]

omit [Session σ] in
/-- Only the messages and what is told of them matter. -/
theorem Hearing.congr {c c' : Connection σ} (hc : Hearing c) (hcursors : c'.cursors = c.cursors)
    (hlistener : c'.listener = c.listener) (hmessages : c'.messages = c.messages)
    (hjournal : c'.journal = c.journal) : Hearing c' where
  listener := by rw [hlistener, hjournal, hc.listener]
  present i hi := by
    rw [hlistener] at hi
    rw [hcursors]
    exact hc.present i hi
  hears k := by
    have hbefore := hc.hears k
    unfold messagesFor messagesOf Cursor.recordIn at hbefore ⊢
    rw [hcursors, hlistener, hmessages, hjournal]
    exact hbefore

omit [Session σ] in
theorem Hearing.noted {c : Connection σ} (hc : Hearing c) (owner : Option Nat) (r : Request) :
    Hearing (c.noted owner r) where
  listener := hc.listener.trans (lastOwner_submitted _ _ _).symm
  present := hc.present
  hears k := (hc.hears k).trans (heardBy_submitted _ _ _ _).symm

theorem Hearing.moved {c c' : Connection σ} (hc : Hearing c) (hmove : Move c c') :
    Hearing c' := by
  cases hmove with
  | opened husable =>
      refine ⟨hc.listener, ?_, ?_⟩
      · intro i hi
        have hlt := hc.present i hi
        simpa using Nat.lt_succ_of_lt hlt
      · intro k
        have hbefore := hc.hears k
        unfold messagesFor at hbefore ⊢
        rw [recordIn_opened]
        exact hbefore
  | began owner husable howner => exact hc.begun owner howner
  | submitted owner r husable howner =>
      exact ((hc.noted _ r).heard (ask r c.session).1.messages).congr rfl rfl rfl rfl
  | advanced reader husable hreader =>
      exact (hc.heard (Session.nextResult c.session).1.messages).congr rfl rfl rfl rfl
  | fetched reader husable hreader =>
      exact (hc.heard (Session.fetchRow c.session).1.messages).congr rfl rfl rfl rfl
  | copied columns declarations rows husable howner =>
      exact (hc.heard (Session.bulkCopy columns declarations rows c.session).1.messages).congr
        rfl rfl rfl rfl
  | prepared k hk hactive => exact hc.changed k fun _ => rfl
  | sent k reliable hk => exact hc.changed k fun _ => rfl
  | reached k columns hk => exact hc.changed k fun _ => rfl
  | finished k count value hk => exact hc.changed k fun _ => rfl
  | counted k count hk => exact hc.changed k fun _ => rfl
  | rowRead k hk => exact hc.changed k fun _ => rfl
  | unnumbered k hk => exact hc.changed k fun _ => rfl
  | totalled k count reliable hk => exact hc.changed k fun _ => rfl
  | failed k hk => exact hc.changed k fun _ => rfl
  | shut k hk => exact hc.changed k fun _ => rfl
  | released k hk =>
      unfold release
      split
      · exact hc.congr rfl rfl rfl rfl
      · exact hc
  | sized k n => exact hc.changed k fun _ => rfl
  | warned text => exact hc.heard _
  | issued w hcalm => exact hc.congr rfl rfl rfl rfl
  | modeSet value husable => exact hc.congr rfl rfl rfl rfl
  | timeoutSet n husable => exact hc.congr rfl rfl rfl rfl
  | escalationSet value => exact hc.congr rfl rfl rfl rfl
  | closed hopen =>
      refine ⟨hc.listener, ?_, ?_⟩
      · intro i hi
        have hlt := hc.present i hi
        rw [← List.length_map (·.reset .unused)] at hlt
        exact hlt
      · intro k
        have hbefore := hc.hears k
        unfold messagesFor messagesOf at hbefore ⊢
        rw [recordIn_closed]
        exact hbefore

/-! ## Responses -/

/-- A use of a session that leaves the last request the one that is answered. -/
inductive Use : σ → σ → Prop
  | advanced (s : σ) : Use s (Session.nextResult s).2
  | fetched (s : σ) : Use s (Session.fetchRow s).2
  | timed (s : σ) (n : Int) : Use s (Session.setTimeout n s)

/-- A session as it is after such uses. -/
abbrev Continues : σ → σ → Prop := Relation.ReflTransGen Use

/-- What is read for a cursor is what is left of the response to the last request. -/
def AnswersLast (c : Connection σ) : Prop :=
  c.isOpen = true → ∀ i r, lastSubmission c.journal = some (some i, r) →
    ∃ s : σ, Continues (ask r s).2 c.session

theorem AnswersLast.congr {c c' : Connection σ} (hc : c.AnswersLast)
    (hopen : c'.isOpen = c.isOpen) (hsession : Continues c.session c'.session)
    (hjournal : lastSubmission c'.journal = lastSubmission c.journal) : c'.AnswersLast := by
  intro hisOpen i r hlast
  rw [hopen] at hisOpen
  rw [hjournal] at hlast
  obtain ⟨s, hs⟩ := hc hisOpen i r hlast
  exact ⟨s, hs.trans hsession⟩

omit [Session σ] in
/-- Apart from the cursors it is known what changes when a statement begins. -/
theorem begun_eq (c : Connection σ) (i : Option Nat) :
    ∃ cursors, c.begun i =
      { c with
        cursors
        active := i
        listener := i
        messages := []
        journal := c.journal ++ [.began i] } := by
  have hmodify? : ∀ (d : Connection σ) (j : Option Nat) (f : CursorRecord → CursorRecord),
      ∃ cursors, d.modifyCursor? j f = { d with cursors } := by
    intro d j f
    cases j with
    | none => exact ⟨d.cursors, rfl⟩
    | some j => exact ⟨d.cursors.modify j f, rfl⟩
  unfold begun
  obtain ⟨kept, hkept⟩ := hmodify? c c.listener fun r => { r with messages := c.messages }
  obtain ⟨detached, hdetached⟩ := hmodify? { c with cursors := kept } c.active CursorRecord.detach
  dsimp only
  rw [hkept]
  by_cases hactive : c.active = i
  · rw [if_pos hactive]
    exact ⟨kept, rfl⟩
  · rw [if_neg hactive, hdetached]
    exact ⟨detached, rfl⟩

theorem AnswersLast.moved {c c' : Connection σ} (hc : c.AnswersLast) (hmove : Move c c') :
    c'.AnswersLast := by
  cases hmove with
  | opened husable => exact hc
  | began owner husable howner =>
      obtain ⟨cursors, hbegun⟩ := begun_eq c (owner.map (·.index))
      rw [hbegun]
      exact hc.congr rfl .refl (lastSubmission_began _ _)
  | submitted owner r husable howner =>
      intro hisOpen i r' hlast
      have hthis : lastSubmission ((c.noted (owner.map (·.index)) r).absorbed
          (ask r c.session)).journal = some (owner.map (·.index), r) :=
        (lastSubmission_append_heard _ _).trans (lastSubmission_submitted _ _ _)
      rw [hthis] at hlast
      obtain ⟨_, rfl⟩ := Prod.mk.inj (Option.some.inj hlast)
      exact ⟨c.session, .refl⟩
  | advanced reader husable hreader =>
      exact hc.congr rfl (.single (.advanced _)) (lastSubmission_append_heard _ _)
  | fetched reader husable hreader =>
      exact hc.congr rfl (.single (.fetched _)) (lastSubmission_append_heard _ _)
  | copied columns declarations rows husable howner =>
      intro hisOpen i r hlast
      have hbefore := (lastSubmission_append_heard _ _).symm.trans hlast
      rw [lastSubmitter, hbefore] at howner
      cases howner
  | prepared k hk hactive => exact hc
  | sent k reliable hk => exact hc
  | reached k columns hk => exact hc
  | finished k count value hk => exact hc
  | counted k count hk => exact hc
  | rowRead k hk => exact hc
  | unnumbered k hk => exact hc
  | totalled k count reliable hk => exact hc
  | failed k hk => exact hc
  | shut k hk => exact hc
  | released k hk =>
      unfold release
      split
      · exact hc
      · exact hc
  | sized k n => exact hc
  | warned text => exact hc.congr rfl .refl (lastSubmission_append_heard _ _)
  | issued w hcalm => exact hc
  | modeSet value husable => exact hc
  | timeoutSet n husable => exact hc.congr rfl (.single (.timed _ n)) rfl
  | escalationSet value => exact hc
  | closed hopen => exact nofun

/-! ## Isolation -/

/-- What keeps the cursors of a connection apart. -/
structure Isolated (c : Connection σ) : Prop where
  readsOwn : c.ReadsOwn
  answersLast : c.AnswersLast
  hearing : Hearing c

/-- A connection that was just opened has no cursors and has submitted nothing. -/
theorem isolated_connection (o : ConnectionOptions) (session : σ) :
    Isolated (o.connection session) where
  readsOwn k hreading := by
    have hk := has_of_isReading hreading
    exact absurd hk (Nat.not_lt_zero _)
  answersLast := nofun
  hearing := ⟨rfl, nofun, fun _ => rfl⟩

theorem Isolated.moves {c c' : Connection σ} (hc : Isolated c) (hmoves : Moves c c') :
    Isolated c' :=
  hmoves.keep (fun _ _ hmove hd =>
    ⟨hd.readsOwn.moved hmove, hd.answersLast.moved hmove, hd.hearing.moved hmove⟩) hc

end TdsClient.Connection
