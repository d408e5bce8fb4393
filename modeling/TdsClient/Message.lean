/-!
# Server messages

Everything the server says beside results comes as a message with a
number and a severity. Messages up to severity ten inform; the others
report errors, whose class follows from the severity and, for user
errors, from the number.

A few messages only announce a change of the session's environment. They
are recorded like all others but never reported as warnings.

## Main definitions

* `Message.isWarning`, `Message.errorClass` — what a message reports.
* `Message.isReported` — whether an informational message becomes a warning.
* `Message.worst?` — the message that explains a failed request.

## Main results

* `worst?_mem`, `severity_le_worst?` — it is one of the messages, and none is more severe.
-/

namespace TdsClient

/-- A message of the server, or of the client about its own doings. -/
structure Message where
  number : Int
  state : Int := 1
  severity : Int := 0
  description : String
  server : String := ""
  procedure : String := ""
  line : Int := 0
deriving DecidableEq

/-- The classes of errors that a database reports. -/
inductive ErrorClass
  | database
  | data
  | operational
  | integrity
  | internal
  | programming
  | notSupported
deriving DecidableEq

/-- The name of a class in the common database interface. -/
def ErrorClass.name : ErrorClass → String
  | .database => "DatabaseError"
  | .data => "DataError"
  | .operational => "OperationalError"
  | .integrity => "IntegrityError"
  | .internal => "InternalError"
  | .programming => "ProgrammingError"
  | .notSupported => "NotSupportedError"

/-- The class of a name. -/
def ErrorClass.ofName (name : String) : ErrorClass :=
  ([.data, .operational, .integrity, .internal, .programming, .notSupported].find?
    (ErrorClass.name · = name)).getD .database

namespace Message

/-- Messages up to this severity inform. -/
def maxWarningSeverity : Int := 10

/-- Numbers from here on are given to errors by users. -/
def minUserNumber : Int := 50000

/-- Changes of database, language and character set. -/
def environmentChanges : List Int := [5701, 5703, 5704]

/-- Violations of unique indexes and keys. -/
def uniqueViolations : List Int := [2601, 2627]

/-- Overflows, failed conversions, division by zero and truncation. -/
def dataNumbers : List Int := [220, 517, 518, 529, 8114, 8115, 8134, 8152]

/-- Violations of other constraints. -/
def integrityNumbers : List Int := [515, 544, 545, 547, 548]

/-- Requests that the server does not support. -/
def notSupportedNumbers : List Int := [40508, 40515]

/-- Whether a message informs rather than reports an error. -/
def isWarning (m : Message) : Bool := m.severity ≤ maxWarningSeverity

/-- Whether an informational message is reported as a warning. -/
def isReported (m : Message) : Bool := 0 < m.number ∧ m.number ∉ environmentChanges

/-- The class of the error that a message reports. -/
def errorClass (m : Message) : ErrorClass :=
  if minUserNumber ≤ m.number then .programming
  else if m.severity = 11 ∨ m.severity = 15 then .programming
  else if m.severity = 12 then .integrity
  else if m.severity = 13 then .internal
  else if m.severity = 14 then
    if m.number ∈ uniqueViolations then .integrity else .database
  else if m.severity = 16 then
    if m.number ∈ dataNumbers then .data
    else if m.number ∈ integrityNumbers then .integrity
    else if m.number ∈ notSupportedNumbers then .notSupported
    else .programming
  else if 17 ≤ m.severity ∧ m.severity ≤ 24 then .operational
  else .database

/-- The messages that report errors. -/
def errors (messages : List Message) : List Message := messages.filter (!·.isWarning)

/-- The more severe of two messages, the earlier one if they are equally severe. -/
def moreSevere (earlier later : Message) : Message :=
  if earlier.severity < later.severity then later else earlier

/-- The more severe of two messages is one of them. -/
theorem moreSevere_eq (earlier later : Message) :
    moreSevere earlier later = earlier ∨ moreSevere earlier later = later := by
  unfold moreSevere
  split
  · exact .inr rfl
  · exact .inl rfl

/-- The first of the most severe errors among messages. -/
def worst? (messages : List Message) : Option Message :=
  match errors messages with
  | [] => none
  | first :: rest => some (rest.foldl moreSevere first)

theorem foldl_moreSevere_mem (rest : List Message) (first : Message) :
    rest.foldl moreSevere first ∈ first :: rest := by
  induction rest generalizing first with
  | nil => simp
  | cons m rest ih =>
    rw [List.foldl_cons]
    rcases List.mem_cons.1 (ih (moreSevere first m)) with same | later
    · rw [same]
      rcases moreSevere_eq first m with h | h <;> simp [h]
    · exact List.mem_cons_of_mem _ (List.mem_cons_of_mem _ later)

/-- The message found is one of the errors. -/
theorem worst?_mem {messages : List Message} {m : Message} (h : worst? messages = some m) :
    m ∈ errors messages := by
  unfold worst? at h
  split at h
  · contradiction
  next first rest heq =>
    rw [heq, ← Option.some.inj h]
    exact foldl_moreSevere_mem rest first

theorem le_foldl_moreSevere (rest : List Message) (first m : Message) (h : m ∈ first :: rest) :
    m.severity ≤ (rest.foldl moreSevere first).severity := by
  induction rest generalizing first m with
  | nil => simp_all
  | cons later rest ih =>
    simp only [List.foldl_cons]
    have keep := ih (moreSevere first later) _ (List.mem_cons_self ..)
    rcases List.mem_cons.1 h with rfl | h
    · refine Int.le_trans ?_ keep
      unfold moreSevere; split <;> omega
    · rcases List.mem_cons.1 h with rfl | h
      · refine Int.le_trans ?_ keep
        unfold moreSevere; split <;> omega
      · exact ih _ _ (List.mem_cons_of_mem _ h)

/-- No error is more severe than the message found. -/
theorem severity_le_worst? {messages : List Message} {worst m : Message}
    (h : worst? messages = some worst) (hm : m ∈ errors messages) :
    m.severity ≤ worst.severity := by
  unfold worst? at h
  split at h
  · contradiction
  next first rest heq =>
    rw [← Option.some.inj h]
    exact le_foldl_moreSevere rest first m (heq ▸ hm)

/-- There is no such message exactly if no message reports an error. -/
theorem worst?_eq_none_iff (messages : List Message) :
    worst? messages = none ↔ ∀ m ∈ messages, m.isWarning = true := by
  unfold worst?
  split
  next heq => simpa [errors, List.filter_eq_nil_iff] using heq
  next first rest heq =>
    simp only [reduceCtorEq, false_iff]
    intro all
    have mem : first ∈ errors messages := heq ▸ List.mem_cons_self ..
    simp [errors] at mem
    simp [all first mem.1] at mem

/-- A message of the client. -/
def ofClient (text : String) : Message where
  number := 0
  description := text

end Message

end TdsClient
