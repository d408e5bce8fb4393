import TdsClient.Connection.Basic

/-!
# Reading the journal of a connection

The journal is the order of events on a connection. Two things are read off
it. A message belongs to the statement that began last before the message
was heard, so the messages of a statement are those heard between its
beginning and the next one. And a session answers for the request that was
submitted last, so what it delivers belongs to the owner of that request.

## Main definitions

* `statements` — the statements of a journal with their messages.
* `heardBy` — the messages of the last statement of a cursor.
* `lastSubmission` — the last request, and on whose behalf it was submitted.

## Main results

* `heardBy_split` — the messages stand between two beginnings.
-/

namespace TdsClient.Journal

/-- A statement: its owner, and the messages heard from its beginning until the next one begins. -/
structure Statement where
  owner : Option Nat
  messages : List Message

/-- The statements after one more event, the last one first. -/
def extend (earlier : List Statement) : Event → List Statement
  | .began owner => ⟨owner, []⟩ :: earlier
  | .submitted .. => earlier
  | .heard m =>
    match earlier with
    | [] => []
    | last :: rest => { last with messages := last.messages ++ [m] } :: rest

/-- The statements of a journal, the last one first. -/
def statements (j : List Event) : List Statement := j.foldl extend []

/-- The owner of the statement that began last. -/
def lastOwner (j : List Event) : Option Nat := (statements j).head?.bind (·.owner)

/-- The messages heard during the last statement of a cursor, none if it has begun none. -/
def heardBy (i : Nat) (j : List Event) : List Message :=
  (((statements j).find? (·.owner = some i)).map (·.messages)).getD []

/-- The request that an event submits, if it does, with its owner. -/
def submission? : Event → Option (Option Nat × Request)
  | .submitted owner request => some (owner, request)
  | _ => none

/-- The last request that was submitted, with its owner. -/
def lastSubmission (j : List Event) : Option (Option Nat × Request) :=
  (j.filterMap submission?).getLast?

/-- On whose behalf the last request was submitted. -/
def lastSubmitter (j : List Event) : Option (Option Nat) := (lastSubmission j).map Prod.fst

/-! ## One more event -/

theorem statements_concat (j : List Event) (e : Event) :
    statements (j ++ [e]) = extend (statements j) e := by
  simp [statements]

@[simp]
theorem lastOwner_began (j : List Event) (owner : Option Nat) :
    lastOwner (j ++ [.began owner]) = owner := by
  simp [lastOwner, statements_concat, extend]

@[simp]
theorem lastOwner_submitted (j : List Event) (owner : Option Nat) (r : Request) :
    lastOwner (j ++ [.submitted owner r]) = lastOwner j := by
  simp [lastOwner, statements_concat, extend]

@[simp]
theorem lastOwner_heard (j : List Event) (m : Message) :
    lastOwner (j ++ [.heard m]) = lastOwner j := by
  unfold lastOwner
  rw [statements_concat]
  cases statements j <;> rfl

/-- A cursor whose statement begins has heard nothing in it; the others have what they had. -/
theorem heardBy_began (i : Nat) (j : List Event) (owner : Option Nat) :
    heardBy i (j ++ [.began owner]) = if owner = some i then [] else heardBy i j := by
  unfold heardBy
  rw [statements_concat]
  by_cases howner : owner = some i
  · simp [extend, howner]
  · simp [extend, howner]

@[simp]
theorem heardBy_submitted (i : Nat) (j : List Event) (owner : Option Nat) (r : Request) :
    heardBy i (j ++ [.submitted owner r]) = heardBy i j := by
  simp [heardBy, statements_concat, extend]

/-- A message is heard by the owner of the statement that began last. -/
theorem heardBy_heard (i : Nat) (j : List Event) (m : Message) :
    heardBy i (j ++ [.heard m]) =
      if lastOwner j = some i then heardBy i j ++ [m] else heardBy i j := by
  unfold heardBy lastOwner
  rw [statements_concat]
  cases hs : statements j with
  | nil => simp [extend]
  | cons last rest =>
      by_cases howner : last.owner = some i
      · simp [extend, howner]
      · simp [extend, howner]

@[simp]
theorem lastSubmission_began (j : List Event) (owner : Option Nat) :
    lastSubmission (j ++ [.began owner]) = lastSubmission j := by
  simp [lastSubmission, submission?]

@[simp]
theorem lastSubmission_submitted (j : List Event) (owner : Option Nat) (r : Request) :
    lastSubmission (j ++ [.submitted owner r]) = some (owner, r) := by
  simp [lastSubmission, submission?]

/-! ## Several messages -/

@[simp]
theorem lastOwner_append_heard (j : List Event) (ms : List Message) :
    lastOwner (j ++ ms.map .heard) = lastOwner j := by
  induction ms generalizing j with
  | nil => simp
  | cons m rest ih =>
      rw [List.map_cons, List.append_cons, ih, lastOwner_heard]

@[simp]
theorem lastSubmission_append_heard (j : List Event) (ms : List Message) :
    lastSubmission (j ++ ms.map .heard) = lastSubmission j := by
  have hnone : (ms.map Event.heard).filterMap submission? = [] := by
    simp [List.filterMap_eq_nil_iff, submission?]
  simp [lastSubmission, hnone]

@[simp]
theorem lastSubmitter_append_heard (j : List Event) (ms : List Message) :
    lastSubmitter (j ++ ms.map .heard) = lastSubmitter j :=
  congrArg (Option.map Prod.fst) (lastSubmission_append_heard j ms)

theorem heardBy_append_heard (i : Nat) (j : List Event) (ms : List Message) :
    heardBy i (j ++ ms.map .heard) =
      if lastOwner j = some i then heardBy i j ++ ms else heardBy i j := by
  induction ms generalizing j with
  | nil => simp
  | cons m rest ih =>
      rw [List.map_cons, List.append_cons, ih, lastOwner_heard, heardBy_heard]
      by_cases howner : lastOwner j = some i
      · simp [howner]
      · simp [howner]

/-! ## Where the messages stand -/

/-- The message of an event, if one is heard. -/
def message? : Event → Option Message
  | .heard m => some m
  | _ => none

/-- Whether a statement begins. -/
def isBeginning : Event → Bool
  | .began _ => true
  | _ => false

/-- While no statement begins, all messages go to the owner of the last one. -/
theorem heardBy_append_of_quiet (i : Nat) (j during : List Event)
    (hduring : ∀ e ∈ during, isBeginning e = false) :
    lastOwner (j ++ during) = lastOwner j ∧
      heardBy i (j ++ during) =
        if lastOwner j = some i then heardBy i j ++ during.filterMap message?
        else heardBy i j := by
  induction during generalizing j with
  | nil => simp
  | cons e rest ih =>
      have hrest := ih (j ++ [e]) fun e' he' => hduring e' (List.mem_cons_of_mem _ he')
      rw [List.append_cons]
      cases e with
      | began owner => exact absurd (hduring _ (List.mem_cons_self ..)) (by simp [isBeginning])
      | submitted owner r =>
          have hsame : (Event.submitted owner r :: rest).filterMap message? =
              rest.filterMap message? := rfl
          rw [hsame]
          simpa using hrest
      | heard m =>
          refine ⟨by simpa using hrest.1, ?_⟩
          rw [hrest.2, lastOwner_heard, heardBy_heard]
          by_cases howner : lastOwner j = some i
          · simp [howner, message?]
          · simp [howner]

/-- Once another statement has begun, a cursor that begins none hears no more. -/
theorem heardBy_append_of_other (i : Nat) (j later : List Event)
    (howner : lastOwner j ≠ some i) (hlater : Event.began (some i) ∉ later) :
    heardBy i (j ++ later) = heardBy i j := by
  induction later generalizing j with
  | nil => simp
  | cons e rest ih =>
      have hrest : Event.began (some i) ∉ rest := fun h => hlater (List.mem_cons_of_mem _ h)
      rw [List.append_cons]
      cases e with
      | began owner =>
          have hne : owner ≠ some i := by
            rintro rfl
            exact hlater (List.mem_cons_self ..)
          rw [ih (j ++ [Event.began owner]) (by simpa using hne) hrest, heardBy_began, if_neg hne]
      | submitted owner r =>
          rw [ih (j ++ [Event.submitted owner r]) (by simpa using howner) hrest, heardBy_submitted]
      | heard m =>
          rw [ih (j ++ [Event.heard m]) (by simpa using howner) hrest, heardBy_heard, if_neg howner]

/-- The messages of a cursor are those that stand between the beginning of its last statement and
the next beginning, whatever there was before and whatever follows. -/
theorem heardBy_split (i : Nat) (before during later : List Event)
    (hduring : ∀ e ∈ during, isBeginning e = false) (hlater : Event.began (some i) ∉ later)
    (hnext : ∀ e, later.head? = some e → isBeginning e = true) :
    heardBy i (before ++ .began (some i) :: (during ++ later)) = during.filterMap message? := by
  have hquiet := heardBy_append_of_quiet i (before ++ [.began (some i)]) during hduring
  have heq : heardBy i (before ++ [.began (some i)] ++ during) = during.filterMap message? := by
    rw [hquiet.2, lastOwner_began, if_pos rfl, heardBy_began, if_pos rfl, List.nil_append]
  rw [List.append_cons, ← List.append_assoc]
  cases later with
  | nil => rw [List.append_nil, heq]
  | cons e rest =>
      cases e with
      | began owner =>
          have hne : owner ≠ some i := by
            rintro rfl
            exact hlater (List.mem_cons_self ..)
          have hother := heardBy_append_of_other i
            (before ++ [Event.began (some i)] ++ during ++ [Event.began owner]) rest
            (by rw [lastOwner_began]; exact hne) fun h => hlater (List.mem_cons_of_mem _ h)
          rw [List.append_cons, hother, heardBy_began, if_neg hne, heq]
      | submitted owner r => exact absurd (hnext _ rfl) (by simp [isBeginning])
      | heard m => exact absurd (hnext _ rfl) (by simp [isBeginning])

end TdsClient.Journal
