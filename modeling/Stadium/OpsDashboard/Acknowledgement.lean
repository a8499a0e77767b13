import Stadium.Lib.Parts
import Stadium.Pipeline.State

/-!
# Acknowledging an alert

`OpsDashboardApi.acknowledgeAlert` over the server's alert store. The pipeline only
ever adds alerts to the store, and its own state lists the alerts as they were added;
here is the store itself, whose records may have been acknowledged since. A call reads
the record, marks the copy it has read and stores the copy.
-/

namespace Stadium

open Interleaving

/-- An `Alert` with the fields an acknowledgement fills in. -/
structure AlertRecord where
  alert : Alert
  acknowledgedAt : Option String := none
  acknowledgedByUserId : Option String := none
  deriving DecidableEq

/-- An alert nobody has acknowledged. -/
def AlertRecord.filed (alert : Alert) : AlertRecord := { alert }

def AlertRecord.acknowledge (record : AlertRecord) (userId : String) (now : ℤ) : AlertRecord :=
  { record with
    acknowledgedAt := some (IsoDate.toISOString now)
    acknowledgedByUserId := some userId }

/-- `MockAlertStore.addAlert`. -/
def addAlert (store : OrderedMap ℕ AlertRecord) (alert : Alert) : OrderedMap ℕ AlertRecord :=
  store.set alert.alertId { alert }

/-- The alerts raised since are added. -/
def fileAlerts (raised : OrderedMap ℕ Alert) (store : OrderedMap ℕ AlertRecord) :
    OrderedMap ℕ AlertRecord :=
  (raised.values.filter fun alert => (store.get? alert.alertId).isNone).foldl addAlert store

structure AlertDesk where
  clock : ℤ
  alertStore : OrderedMap ℕ AlertRecord
  /-- Every record an `acknowledgeAlert` call returned. -/
  acknowledged : List AlertRecord

inductive AcknowledgementTask where
  -- `getAlert` called
  | finding (alertId : ℕ) (userId : String) (now : ℤ)
  | found (record : AlertRecord) (userId : String) (now : ℤ)
  -- `updateAlert` called
  | storing (updated : AlertRecord)
  | returning (updated : AlertRecord)

inductive AcknowledgementStimulus where
  | acknowledgeAlert (alertId : ℕ) (userId : String)

namespace OpsDashboardApi

def resume (task : AcknowledgementTask) (s : AlertDesk) : Stretch AlertDesk AcknowledgementTask :=
  match task with
  | .finding alertId userId now =>
      match s.alertStore.get? alertId with
      -- the call returns null
      | none => ⟨s, none, []⟩
      | some record => ⟨s, some (.found record userId now), []⟩
  | .found record userId now => ⟨s, some (.storing (record.acknowledge userId now)), []⟩
  | .storing updated =>
      ⟨{ s with alertStore := s.alertStore.set updated.alert.alertId updated },
        some (.returning updated), []⟩
  | .returning updated => ⟨{ s with acknowledged := s.acknowledged ++ [updated] }, none, []⟩

def stimulate (stimulus : AcknowledgementStimulus) (s : AlertDesk) :
    AlertDesk × List AcknowledgementTask :=
  match stimulus with
  | .acknowledgeAlert alertId userId => (s, [.finding alertId userId s.clock])

/-- The calls of `acknowledgeAlert`. -/
def system : TaskSystem AlertDesk AcknowledgementTask AcknowledgementStimulus where
  stimulate := stimulate
  resume := resume

end OpsDashboardApi

/-! ## Filing alerts -/

/-- An alert is new, or the store has what it had. -/
theorem get?_fileAlerts_cases (raised : OrderedMap ℕ Alert) (store : OrderedMap ℕ AlertRecord)
    (alertId : ℕ) :
    (∃ alert ∈ raised.values, alert.alertId = alertId ∧ store.get? alertId = none ∧
        (fileAlerts raised store).get? alertId = some { alert }) ∨
      (∀ alert ∈ raised.values, alert.alertId = alertId → (store.get? alertId).isSome = true) ∧
        (fileAlerts raised store).get? alertId = store.get? alertId := by
  let fresh := raised.values.filter fun alert => (store.get? alert.alertId).isNone
  have folded : fileAlerts raised store = (fresh.map AlertRecord.filed).foldl
      (fun store record => store.set record.alert.alertId record) store := by
    rw [List.foldl_map]
    rfl
  rw [folded]
  rcases OrderedMap.get?_foldl_set_cases (·.alert.alertId) (fresh.map AlertRecord.filed) store
    alertId with ⟨newest, written, named, now⟩ | ⟨absent, kept⟩
  · obtain ⟨alert, isFresh, rfl⟩ := List.mem_map.mp written
    obtain ⟨listed, missing⟩ := List.mem_filter.mp isFresh
    have named : alert.alertId = alertId := named
    rw [named] at missing
    exact .inl ⟨alert, listed, named, Option.isNone_iff_eq_none.mp missing, now⟩
  · refine .inr ⟨fun alert listed named => ?_, kept⟩
    by_contra missing
    rw [← named, Bool.not_eq_true, Option.isSome_eq_false_iff] at missing
    refine absent (List.mem_map.mpr ⟨.filed alert, List.mem_map_of_mem ?_, named⟩)
    exact List.mem_filter.mpr ⟨listed, missing⟩

/-- Every alert is stored under its own id. -/
def OwnIds (raised : OrderedMap ℕ Alert) : Prop :=
  ∀ alertId alert, raised.get? alertId = some alert → alert.alertId = alertId

/-- A record that is in the store stays as it is; a new one is not acknowledged. -/
theorem get?_fileAlerts {raised : OrderedMap ℕ Alert} (own : OwnIds raised)
    (store : OrderedMap ℕ AlertRecord) (alertId : ℕ) :
    (fileAlerts raised store).get? alertId =
      (store.get? alertId).or ((raised.get? alertId).map fun alert => { alert }) := by
  rcases get?_fileAlerts_cases raised store alertId with
    ⟨alert, listed, named, missing, now⟩ | ⟨known, kept⟩
  · obtain ⟨key, stored⟩ := OrderedMap.mem_values.mp listed
    rw [← own key alert stored, named] at stored
    rw [now, missing, stored]
    rfl
  · rw [kept]
    cases held : store.get? alertId with
    | some record => rfl
    | none =>
        cases stored : raised.get? alertId with
        | none => rfl
        | some alert =>
            have listed := OrderedMap.mem_values.mpr ⟨alertId, stored⟩
            have present := known alert listed (own alertId alert stored)
            rw [held] at present
            cases present

end Stadium
