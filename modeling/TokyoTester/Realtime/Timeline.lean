import TokyoTester.Library.Merging
import TokyoTester.Realtime.Events

set_option autoImplicit false

/-! # The timeline of a run (`lib/workflow-run-events.ts`)

The run page merges the stored events with those of the stream. An event is known by a text made of
its run, scenario, timestamp, sequence and kind. The fields are joined by colons, and only the first
two can have one inside: the numbers are read off from the end of the text, so that events with one
key have one place in the timeline. -/

namespace TokyoTester
namespace Realtime

open Merging

/-- JavaScript's numbers without `NaN`: their order, and their texts (`Number::toString`). The
    difference of two numbers has the sign of their order, or is `NaN` for two equal infinities;
    both make the comparison of a sort go on to its next part. -/
class JsNumber (ν : Type) extends LinearOrder ν where
  text : ν → String
  text_injective : ∀ {m n}, text m = text n → m = n
  noColon : ∀ n, ':' ∉ (text n).toList

inductive EventKind where
  | lifecycle
  | network
  | service
  | test
  | diagnostic
deriving DecidableEq, Repr

def EventKind.text : EventKind → String
  | .lifecycle => "lifecycle"
  | .network => "network"
  | .service => "service"
  | .test => "test"
  | .diagnostic => "diagnostic"

/-- `WorkflowLogEvent`. The fields that the merge does not read are in `rest`. -/
structure TimelineEvent (ν δ : Type) where
  workflowRunId : String
  scenarioId : Option String := none
  kind : Option EventKind := none
  timestamp : ν
  sequence : ν
  rest : δ
deriving DecidableEq, Repr

section Merge

variable {ν δ : Type} [JsNumber ν]

/-- `eventKey`. -/
def eventKey (event : TimelineEvent ν δ) : String :=
  event.workflowRunId ++ ":" ++ (truthy event.scenarioId).getD "workflow" ++ ":" ++
    JsNumber.text event.timestamp ++ ":" ++ JsNumber.text event.sequence ++ ":" ++
    (event.kind.map EventKind.text).getD "log"

/-- What the events are sorted by. -/
def place (event : TimelineEvent ν δ) : ν ×ₗ ν := toLex (event.timestamp, event.sequence)

/-- `mergeWorkflowRunEvents`. -/
def mergeWorkflowRunEvents (sources : List (List (TimelineEvent ν δ))) :
    List (TimelineEvent ν δ) :=
  merge eventKey place sources

/-! ## Keys -/

/-- A text is cut at its last colon in one way. -/
theorem append_colon_inj {xs xs' ys ys' : List Char} (hys : ':' ∉ ys) (hys' : ':' ∉ ys')
    (h : xs ++ ':' :: ys = xs' ++ ':' :: ys') : xs = xs' ∧ ys = ys' := by
  induction xs generalizing xs' with
  | nil =>
      cases xs' with
      | nil => exact ⟨rfl, (List.cons.inj h).2⟩
      | cons c xs' =>
          refine absurd ?_ hys
          rw [(List.cons.inj h).2]
          simp
  | cons c xs ih =>
      cases xs' with
      | nil =>
          refine absurd ?_ hys'
          rw [← (List.cons.inj h).2]
          simp
      | cons c' xs' =>
          obtain ⟨rfl, hrest⟩ := List.cons.inj h
          obtain ⟨rfl, rfl⟩ := ih hrest
          exact ⟨rfl, rfl⟩

theorem kind_noColon (kind : Option EventKind) :
    ':' ∉ ((kind.map EventKind.text).getD "log").toList := by
  cases kind with
  | none => decide
  | some kind => cases kind <;> decide

theorem toList_eventKey (event : TimelineEvent ν δ) :
    (eventKey event).toList =
      (((event.workflowRunId.toList ++ ':' :: ((truthy event.scenarioId).getD "workflow").toList) ++
        ':' :: (JsNumber.text event.timestamp).toList) ++
        ':' :: (JsNumber.text event.sequence).toList) ++
        ':' :: ((event.kind.map EventKind.text).getD "log").toList := by
  simp [eventKey]

/-- **Events with one key have one place.** -/
theorem place_eq_of_eventKey {a b : TimelineEvent ν δ} (h : eventKey a = eventKey b) :
    place a = place b := by
  have hchars := congrArg String.toList h
  rw [toList_eventKey, toList_eventKey] at hchars
  obtain ⟨hchars, -⟩ := append_colon_inj (kind_noColon _) (kind_noColon _) hchars
  obtain ⟨hchars, hsequence⟩ := append_colon_inj (JsNumber.noColon _) (JsNumber.noColon _) hchars
  obtain ⟨-, htimestamp⟩ := append_colon_inj (JsNumber.noColon _) (JsNumber.noColon _) hchars
  rw [place, place, JsNumber.text_injective (String.toList_inj.1 hsequence),
    JsNumber.text_injective (String.toList_inj.1 htimestamp)]

/-! ## The merged list -/

/-- What the merge makes of the events of its sources. -/
structure MergedFrom (events result : List (TimelineEvent ν δ)) : Prop where
  keys : ∀ k, k ∈ result.map eventKey ↔ k ∈ events.map eventKey
  once : (result.map eventKey).Nodup
  last : ∀ event ∈ result,
    events.reverse.find? (fun e => eventKey e = eventKey event) = some event
  sorted : result.Pairwise fun a b =>
    a.timestamp < b.timestamp ∨ a.timestamp = b.timestamp ∧ a.sequence ≤ b.sequence

theorem mergedFrom_merge (sources : List (List (TimelineEvent ν δ))) :
    MergedFrom sources.flatten (mergeWorkflowRunEvents sources) where
  keys := fun k => mem_map_key_merge
  once := nodup_merge sources
  last := fun event hevent => mem_merge.1 hevent
  sorted := (sorted_merge sources).imp fun {a b} hab => by
    simpa [place, Prod.Lex.toLex_le_toLex] using hab

/-- **Merging run events**: every key once with its last value, in order; and merging the result of
    a merge again, alone or among further events, is merging the events themselves. -/
theorem mergeWorkflowRunEvents_spec :
    (∀ sources : List (List (TimelineEvent ν δ)),
      MergedFrom sources.flatten (mergeWorkflowRunEvents sources)) ∧
    (∀ sources : List (List (TimelineEvent ν δ)),
      mergeWorkflowRunEvents [mergeWorkflowRunEvents sources] = mergeWorkflowRunEvents sources) ∧
    ∀ before middle after : List (List (TimelineEvent ν δ)),
      mergeWorkflowRunEvents (before ++ [mergeWorkflowRunEvents middle] ++ after) =
        mergeWorkflowRunEvents (before ++ middle ++ after) := by
  have hparts (before middle after : List (List (TimelineEvent ν δ))) :
      mergeWorkflowRunEvents (before ++ [mergeWorkflowRunEvents middle] ++ after) =
        mergeWorkflowRunEvents (before ++ middle ++ after) :=
    merge_merge (fun _ _ => place_eq_of_eventKey) before middle after
  refine ⟨mergedFrom_merge, fun sources => ?_, hparts⟩
  have halone := hparts [] sources []
  rwa [List.append_nil, List.append_nil, List.nil_append, List.nil_append] at halone

end Merge

/-! ## Whole numbers -/

theorem intLiteral_noColon (n : Int) : ':' ∉ (Json.intLiteral n).toList := by
  have hdigits (m : Nat) : ':' ∉ Nat.toDigits 10 m := fun hmem =>
    absurd (Nat.isDigit_of_mem_toDigits (by decide) (by decide) hmem) (by decide)
  cases n with
  | ofNat n => simpa [Json.intLiteral] using hdigits n
  | negSucc n => simpa [Json.intLiteral] using hdigits (n + 1)

/-- The whole numbers that have an exact text. -/
instance : JsNumber Int where
  text := Json.intLiteral
  text_injective h := by
    have hread := congrArg Json.intOfLiteral h
    rw [Json.intOfLiteral_intLiteral, Json.intOfLiteral_intLiteral] at hread
    exact Option.some.inj hread
  noColon := intLiteral_noColon

end Realtime
end TokyoTester
