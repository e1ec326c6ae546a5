import AifHandoff.Lib.Text
import AifHandoff.Shared.Schema

/-!
Writing one task row (`setTaskFields` and its callers in `packages/data`).

Every write through `setTaskFields` is normalised first: a row that is, or
becomes, `blocked_external` with an `operator_input_required:` reason is paused,
keeps no retry time and is no manual review. The ancestor rollups that follow the
write touch other rows only; `AifHandoff.Data.Rollup` models them.

The activity log column is left out; appending to it stamps the row.
-/

namespace AifHandoff.Data

open AifHandoff.Text

def isOperatorInputRequiredReason (reason : Option String) : Bool :=
  reason.any (startsWith · "operator_input_required:")

def normalizeOperatorInputHoldPatch (patch : TaskFieldsPatch) (existing : TaskRow) :
    TaskFieldsPatch :=
  let effectiveStatus := patch.status.getD existing.status
  let effectiveBlockedReason := patch.blockedReason.getD existing.blockedReason
  if effectiveStatus = .blockedExternal && isOperatorInputRequiredReason effectiveBlockedReason then
    { patch with
      paused := some true
      retryAfter := some none
      manualReviewRequired := some false }
  else patch

/-- `setTaskFields` on the stored row. -/
def setTaskFields (row : TaskRow) (patch : TaskFieldsPatch) : TaskRow :=
  row.set (normalizeOperatorInputHoldPatch patch row)

/-- `appendTaskActivityLog` on the stored row: the log line stamps it. -/
def appendTaskActivityLog (row : TaskRow) (now : Nat) : TaskRow :=
  setTaskFields row { lastHeartbeatAt := some (some now), updatedAt := some now }

/-- The data layer's `updateTaskStatus`; `extra` takes precedence. -/
def updateTaskStatusRow (row : TaskRow) (status : TaskStatus) (extra : TaskFieldsPatch)
    (now : Nat) : TaskRow :=
  setTaskFields row { extra with
    status := extra.status.orElse fun _ => some status
    sessionId := extra.sessionId.orElse fun _ => some none
    lastHeartbeatAt := extra.lastHeartbeatAt.orElse fun _ => some (some now)
    updatedAt := extra.updatedAt.orElse fun _ => some now }

/-- `blockedReason LIKE 'synthesis_not_ready:%'`. -/
def isSynthesisHoldReason (reason : Option String) : Bool :=
  reason.any fun text => sqlLike "synthesis_not_ready:%".toList text.toList

/-- What refreshing a roadmap batch writes to the batch's synthesis task. -/
def refreshSynthesisTaskRow (synthesisReady : Bool) (now : Nat) (row : TaskRow) : TaskRow :=
  if synthesisReady then row.set {
    paused := some
      (if row.blockedReason.isNone || isSynthesisHoldReason row.blockedReason then false
        else row.paused)
    blockedReason := some
      (if isSynthesisHoldReason row.blockedReason then none else row.blockedReason)
    updatedAt := some now }
  else row.set {
    paused := some true
    blockedReason := some
      (if row.blockedReason.isNone || isSynthesisHoldReason row.blockedReason then
        some "synthesis_not_ready: waiting for validated audit batch artifacts"
        else row.blockedReason)
    updatedAt := some now }

/-- A batch refresh pauses, resumes and relabels its synthesis task; it leaves
the status and the resume target. -/
@[simp] theorem refreshSynthesisTaskRow_status (ready : Bool) (now : Nat) (row : TaskRow) :
    (refreshSynthesisTaskRow ready now row).status = row.status := by
  cases ready <;> rfl

@[simp] theorem refreshSynthesisTaskRow_blockedFromStatus (ready : Bool) (now : Nat)
    (row : TaskRow) :
    (refreshSynthesisTaskRow ready now row).blockedFromStatus = row.blockedFromStatus := by
  cases ready <;> rfl

@[simp] theorem refreshSynthesisTaskRow_hierarchyRole (ready : Bool) (now : Nat) (row : TaskRow) :
    (refreshSynthesisTaskRow ready now row).hierarchyRole = row.hierarchyRole := by
  cases ready <;> rfl

section Columns

variable (row : TaskRow) (patch : TaskFieldsPatch)

@[simp] theorem setTaskFields_status :
    (setTaskFields row patch).status = patch.status.getD row.status := by
  unfold setTaskFields normalizeOperatorInputHoldPatch; simp only []; split <;> rfl

@[simp] theorem setTaskFields_blockedReason :
    (setTaskFields row patch).blockedReason = patch.blockedReason.getD row.blockedReason := by
  unfold setTaskFields normalizeOperatorInputHoldPatch; simp only []; split <;> rfl

@[simp] theorem setTaskFields_blockedFromStatus :
    (setTaskFields row patch).blockedFromStatus =
      patch.blockedFromStatus.getD row.blockedFromStatus := by
  unfold setTaskFields normalizeOperatorInputHoldPatch; simp only []; split <;> rfl

/-- Without an operator hold in sight the patch is written as it stands. -/
theorem setTaskFields_of_reason
    (reason : isOperatorInputRequiredReason (patch.blockedReason.getD row.blockedReason) = false) :
    setTaskFields row patch = row.set patch := by
  simp [setTaskFields, normalizeOperatorInputHoldPatch, reason]

end Columns

/-- Logging on a row without an operator hold only stamps it. -/
theorem appendTaskActivityLog_eq {row : TaskRow} {now : Nat}
    (reason : isOperatorInputRequiredReason row.blockedReason = false) :
    appendTaskActivityLog row now =
      { row with lastHeartbeatAt := some now, updatedAt := now } := by
  rw [appendTaskActivityLog, setTaskFields_of_reason _ _ (by simpa using reason)]
  rfl

theorem setTaskFields_logged {row : TaskRow} {patch : TaskFieldsPatch} {now : Nat}
    {reason : String} (written : patch.blockedReason = some (some reason))
    (noHold : isOperatorInputRequiredReason (some reason) = false) :
    appendTaskActivityLog (setTaskFields row patch) now =
      { row.set patch with lastHeartbeatAt := some now, updatedAt := now } := by
  have stored : (setTaskFields row patch).blockedReason = some reason := by
    rw [setTaskFields_blockedReason, written]; rfl
  rw [appendTaskActivityLog_eq (by rw [stored]; exact noHold),
    setTaskFields_of_reason row patch (by rw [written]; exact noHold)]

end AifHandoff.Data
