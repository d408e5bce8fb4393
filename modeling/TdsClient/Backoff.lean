import TdsClient.Value.Literal

/-!
# Retrying with growing allotments

Work that may fail is tried again and again until it succeeds, what
handles its failures raises one itself, or the time is up. Every attempt
is allotted a time: the first one as given, each later one a factor times
as much, but never more than is left. An attempt that fails early waits
for the rest of its allotment.

The work is seen from outside, as the duration and outcome of each
attempt. Times are exact, and the clock only advances by attempts and
pauses.

## Main definitions

* `Policy` — limit, first allotment and factor.
* `Run` — what happened.
* `run` — the run of a policy on a schedule of attempts.
-/

namespace TdsClient.Backoff

/-- How long to try, the allotment of the first attempt, and the factor from one allotment to
the next. -/
structure Policy where
  limit : Rat
  first : Rat
  factor : Rat := 2

/-- An attempt: how long it takes and what it comes to. -/
structure Attempt (ε α : Type) where
  duration : Rat
  result : Except ε α

/-- How a run ends: with a result, with what handling a failure raised, or after the last of a
number of attempts because the time is up. -/
inductive Outcome (η α : Type)
  | succeeded (result : α)
  | stopped (raised : η)
  | gaveUp (attempts : Nat)

/-- What happened in a run: the allotments, the failures, the pauses, and when and how it ended. -/
structure Run (ε η α : Type) where
  allotments : List Rat
  failures : List ε
  pauses : List Rat
  clock : Rat
  outcome : Outcome η α

namespace Run

variable {ε η α : Type}

/-- A run with an attempt in front of it. -/
def after (allotment : Rat) (failure : ε) (pause : Rat) (rest : Run ε η α) : Run ε η α where
  allotments := allotment :: rest.allotments
  failures := failure :: rest.failures
  pauses := (if 0 < pause then [pause] else []) ++ rest.pauses
  clock := rest.clock
  outcome := rest.outcome

end Run

variable {ε η α : Type}

/-- The shorter of two times. -/
def shorter (s t : Rat) : Rat := if t < s then t else s

/-- Whether allotments are positive and do not shrink, so that the time is up some day however
short the attempts are. -/
def Policy.isBounded (p : Policy) : Bool := 0 < p.first ∧ 1 ≤ p.factor

/-- Attempts after which a run of a policy that is not bounded is not followed further. -/
def patience : Nat := 100000

/-- More attempts than this are not made: with a bounded policy each but the last takes at least
the first allotment. -/
def Policy.maxAttempts (p : Policy) : Nat :=
  if p.isBounded then max 1 (p.limit / p.first).ceil.toNat else patience

/-- The run from attempt number `n` on, with at most `fuel` attempts. -/
def runFrom (p : Policy) (handle : ε → Except η Unit) (attempts : Nat → Attempt ε α)
    (deadline : Rat) : (fuel n : Nat) → (allotment now : Rat) → Run ε η α
  | 0, n, _, now => ⟨[], [], [], now, .gaveUp n⟩
  | fuel + 1, n, allotment, now =>
    let attempt := attempts n
    let ended := now + attempt.duration
    match attempt.result with
    | .ok result => ⟨[allotment], [], [], ended, .succeeded result⟩
    | .error failure =>
      match handle failure with
      | .error raised => ⟨[allotment], [failure], [], ended, .stopped raised⟩
      | .ok () =>
        let pause := allotment - attempt.duration
        let resumed := if 0 < pause then ended + pause else ended
        .after allotment failure pause <|
          if deadline ≤ resumed then ⟨[], [], [], resumed, .gaveUp (n + 1)⟩
          else
            runFrom p handle attempts deadline fuel (n + 1)
              (shorter (allotment * p.factor) (deadline - resumed)) resumed

/-- The run of a policy from a time on. -/
def run (p : Policy) (handle : ε → Except η Unit) (attempts : Nat → Attempt ε α)
    (start : Rat := 0) : Run ε η α :=
  runFrom p handle attempts (start + p.limit) p.maxAttempts 0 p.first start

/-- Attempts of which the first few are listed and all others alike. -/
def listed (first : List (Attempt ε α)) (others : Attempt ε α) (n : Nat) : Attempt ε α :=
  first[n]?.getD others

/-- The wording of giving up; the limit is shown as it was given. -/
def gaveUpText (attempts : Nat) (limit : Value) : String :=
  "gave up after " ++ toString attempts ++ " attempts in " ++ limit.display ++ " seconds"

/-- A number of seconds given as a value. -/
def seconds? : Value → Option Rat
  | .int n => some n
  | .bool b => some (b.toNat : Int)
  | .float x => x.toRat?
  | _ => none

end TdsClient.Backoff
