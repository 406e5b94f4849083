/-!
# `Status.lean` — the operational status of a node

Three statuses, each with the text under which it is published as a member attribute. Reading a
text back is exact: no trimming, no change of case (`Status.ofText?_eq_some_iff`).
-/

set_option autoImplicit false

namespace ClusterKeeper

inductive Status
  /-- Takes and runs tasks. -/
  | active
  /-- Takes no new task; the running ones go on. -/
  | pause
  /-- Drained, and takes no task. -/
  | maintenance
  deriving DecidableEq, Repr, Inhabited

namespace Status

/-- Every status, in the order in which messages list them. -/
def all : List Status := [active, pause, maintenance]

/-- The attribute value that publishes this status. -/
def text : Status → String
  | active => "ACTIVE"
  | pause => "PAUSE"
  | maintenance => "MAINTENANCE_MODE"

/-- The name that debugging output gives to this status. -/
def debugName : Status → String
  | active => "Active"
  | pause => "Pause"
  | maintenance => "MaintenanceMode"

/-- Whether a node of this status may be given a new task. -/
def acceptsTasks (s : Status) : Bool := s = active

/-- The status that `t` publishes. -/
def ofText? (t : String) : Option Status := all.find? (fun s => s.text = t)

theorem ofText?_text (s : Status) : ofText? s.text = some s := by
  cases s <;> decide

theorem ofText?_eq_some_iff {t : String} {s : Status} : ofText? t = some s ↔ t = s.text := by
  constructor
  · intro h
    simpa [eq_comm] using List.find?_some h
  · rintro rfl
    exact ofText?_text s

theorem text_injective {s t : Status} (h : s.text = t.text) : s = t := by
  have := ofText?_text s
  rw [h, ofText?_text] at this
  exact (Option.some.inj this).symm

/-- What is said of a text that publishes no status. -/
def unknownMessage (t : String) : String := "unknown node status: " ++ t

end Status

end ClusterKeeper
