import Stadium.FanNotificationSystem.Alternatives

/-!
# Only what may be recommended, and all of it when nothing is rejected

One alternative is picked for the whole call, so the result is the list of the
origin's routes without those whose pair was rejected lately
(`generateRedirections_eq`). All that is said of an entry, and when none is
missing, is read off from this form. An origin that is MODERATE is above a LOW
gate and still gets nothing: the trigger comes before the choice.
-/

namespace Stadium

/-- The rejection is less than five minutes old. -/
def RejectionRecord.Young (rejection : RejectionRecord) (now : ℤ) : Prop :=
  ∃ rejectedAtMs, IsoDate.parse rejection.rejectedAt = some rejectedAtMs ∧
    now - rejectedAtMs < rejectionSuppressionMs

theorem isSuppressed_eq_false {routeId : RouteId} {alternativeGateId : GateId}
    {rejections : List RejectionRecord} {now : ℤ} :
    isSuppressed routeId alternativeGateId rejections now = false ↔
      ∀ rejection ∈ rejections, rejection.routeId = routeId →
        rejection.alternativeGateId = alternativeGateId → ¬ rejection.Young now := by
  unfold isSuppressed RejectionRecord.Young
  simp only [List.any_eq_false, Bool.and_eq_true, beq_iff_eq, Option.any_eq_true,
    decide_eq_true_iff, not_and, and_imp]

/-- The listed routes that are assigned to the gate. -/
def routesOf (originGate : Gate) (routes : List ShuttleRoute) : List ShuttleRoute :=
  routes.filter fun route => originGate.assignedRouteIds.contains route.routeId

section

variable {localeCompare : String → String → Ordering} {originGate : Gate}
  {forecastsByGate : OrderedMap GateId ForecastResult} {routes : List ShuttleRoute}
  {rejections : List RejectionRecord} {now : ℤ}

/-- **The closed form** for an origin at risk with an alternative: its routes,
in order, less those suppressed. -/
theorem generateRedirections_eq {alternativeGateId : GateId}
    (risky : (currentRiskLevel (forecastsByGate.get? originGate.gateId)).highOrCritical = true)
    (picked : truthy (pickAlternativeGate localeCompare originGate.gateId
      (currentRiskLevel (forecastsByGate.get? originGate.gateId)) forecastsByGate) =
        some alternativeGateId) :
    generateRedirections localeCompare originGate forecastsByGate routes rejections now =
      ((routesOf originGate routes).filter fun route =>
        !isSuppressed route.routeId alternativeGateId rejections now).map fun route =>
          redirectionTo route originGate forecastsByGate alternativeGateId now := by
  unfold generateRedirections
  simp only [risky, Bool.not_true, Bool.false_eq_true, if_false, picked]
  show (routesOf originGate routes).filterMap _ = _
  induction routesOf originGate routes with
  | nil => rfl
  | cons route rest ih =>
      rw [List.filterMap_cons, List.filter_cons, ih]
      cases isSuppressed route.routeId alternativeGateId rejections now <;> rfl

theorem generateRedirections_eq_nil
    (calm : (currentRiskLevel (forecastsByGate.get? originGate.gateId)).highOrCritical = false ∨
      truthy (pickAlternativeGate localeCompare originGate.gateId
        (currentRiskLevel (forecastsByGate.get? originGate.gateId)) forecastsByGate) = none) :
    generateRedirections localeCompare originGate forecastsByGate routes rejections now = [] := by
  unfold generateRedirections
  rcases calm with calm | none
  · simp only [calm, Bool.not_false, if_true]
  · by_cases risky :
        (!(currentRiskLevel (forecastsByGate.get? originGate.gateId)).highOrCritical) = true
    · exact if_pos risky
    · simp only [if_neg risky, none]
      exact List.filterMap_eq_nil_iff.mpr fun _ _ => rfl

/-- The entries follow the list of the origin's routes. -/
theorem generateRedirections_sublist :
    ((generateRedirections localeCompare originGate forecastsByGate routes rejections now).map
      (·.routeId)).Sublist ((routesOf originGate routes).map (·.routeId)) := by
  cases risky : (currentRiskLevel (forecastsByGate.get? originGate.gateId)).highOrCritical with
  | false =>
      rw [generateRedirections_eq_nil (.inl risky)]
      exact List.nil_sublist _
  | true =>
      cases picked : truthy (pickAlternativeGate localeCompare originGate.gateId
        (currentRiskLevel (forecastsByGate.get? originGate.gateId)) forecastsByGate) with
      | none =>
          rw [generateRedirections_eq_nil (.inr picked)]
          exact List.nil_sublist _
      | some alternativeGateId =>
          rw [generateRedirections_eq risky picked, List.map_map]
          exact List.filter_sublist.map _

/-- Without young rejections none of the origin's routes is left out. -/
theorem generateRedirections_complete (named : forecastsByGate.get? "" = none)
    (risky : (currentRiskLevel (forecastsByGate.get? originGate.gateId)).highOrCritical = true)
    (free : ∀ rejection ∈ rejections, ¬ rejection.Young now)
    (relief : ∃ gateId, LowerRiskGate originGate.gateId
      (currentRiskLevel (forecastsByGate.get? originGate.gateId)) forecastsByGate gateId) :
    (generateRedirections localeCompare originGate forecastsByGate routes rejections now).map
      (·.routeId) = (routesOf originGate routes).map (·.routeId) := by
  obtain ⟨gateId, lower⟩ := relief
  obtain ⟨alternativeGateId, picked⟩ := Option.isSome_iff_exists.mp
    (pick_isSome_of_lowerRiskGate localeCompare lower)
  rw [← truthy_pick named] at picked
  rw [generateRedirections_eq risky picked, List.map_map]
  have all : ((routesOf originGate routes).filter fun route =>
      !isSuppressed route.routeId alternativeGateId rejections now) =
        routesOf originGate routes := by
    apply List.filter_eq_self.mpr
    intro route _
    rw [isSuppressed_eq_false.mpr fun rejection listed _ _ => free rejection listed]
    rfl
  rw [all]
  rfl

end

/-- Every listed route of the origin has exactly one entry, if no rejection is
young and some gate has a strictly lower Risk_Level. -/
def CompleteWhenFree (localeCompare : String → String → Ordering) (originGate : Gate)
    (forecastsByGate : OrderedMap GateId ForecastResult) (routes : List ShuttleRoute)
    (rejections : List RejectionRecord) (now : ℤ) : Prop :=
  (∀ rejection ∈ rejections, ¬ rejection.Young now) →
  (∃ gateId, LowerRiskGate originGate.gateId
    (currentRiskLevel (forecastsByGate.get? originGate.gateId)) forecastsByGate gateId) →
  (generateRedirections localeCompare originGate forecastsByGate routes rejections now).map
    (·.routeId) = (routesOf originGate routes).map (·.routeId)

/-- Gate A is MODERATE and gate C is LOW; nothing was rejected, and route 1 of gate A
has no entry. -/
theorem moderate_gets_nothing :
    crossingForecasts.get? "" = none ∧
      ¬ CompleteWhenFree compare demoGateA crossingForecasts demoRoutes [] 0 := by
  refine ⟨by decide +kernel, fun complete => ?_⟩
  have all := complete (fun _ impossible => absurd impossible List.not_mem_nil)
    ⟨"gate-c", by decide, _, rfl, by decide +kernel⟩
  exact absurd all (by decide +kernel)

/-- **Only what may be recommended, and all of it.** The result is empty unless the
origin is HIGH or CRITICAL; it follows the origin's listed routes; every entry
leads a route of the origin to another gate of strictly lower level, and its pair
was not rejected in the last five minutes; and an origin at risk gets all its
entries when nothing was. -/
theorem generateRedirections_permitted (localeCompare : String → String → Ordering)
    (originGate : Gate) (forecastsByGate : OrderedMap GateId ForecastResult)
    (routes : List ShuttleRoute) (rejections : List RejectionRecord) (now : ℤ)
    (named : forecastsByGate.get? "" = none) :
    let originRiskLevel := currentRiskLevel (forecastsByGate.get? originGate.gateId)
    let entries :=
      generateRedirections localeCompare originGate forecastsByGate routes rejections now
    (originRiskLevel.highOrCritical = false → entries = []) ∧
    (entries.map (·.routeId)).Sublist ((routesOf originGate routes).map (·.routeId)) ∧
    (∀ entry ∈ entries, entry.routeId ∈ originGate.assignedRouteIds ∧
      entry.originGateId = originGate.gateId ∧
      LowerRiskGate originGate.gateId originRiskLevel forecastsByGate entry.alternativeGateId ∧
      ∀ rejection ∈ rejections, rejection.routeId = entry.routeId →
        rejection.alternativeGateId = entry.alternativeGateId → ¬ rejection.Young now) ∧
    (originRiskLevel.highOrCritical = true →
      CompleteWhenFree localeCompare originGate forecastsByGate routes rejections now) := by
  intro originRiskLevel entries
  refine ⟨fun calm => generateRedirections_eq_nil (.inl calm), generateRedirections_sublist, ?_,
    fun risky => generateRedirections_complete named risky⟩
  intro entry listed
  obtain ⟨-, route, -, assigned, alternativeGateId, picked, -, free, rfl⟩ :=
    mem_generateRedirections.mp listed
  exact ⟨assigned, rfl, lowerRiskGate_of_pick picked, isSuppressed_eq_false.mp free⟩

theorem demoRejection_old : ¬ demoRejection.Young 300000 := by
  rintro ⟨rejectedAtMs, parsed, young⟩
  have atZero : IsoDate.parse demoRejection.rejectedAt = some 0 := by decide +kernel
  cases atZero.symm.trans parsed
  exact absurd young (by decide)

/-- Gate A is CRITICAL, and five minutes after a rejection its one listed route is
redirected. -/
theorem generateRedirections_permitted_demo :
    (generateRedirections compare demoGateA crowdedForecasts demoRoutes [demoRejection]
      300000).map (·.routeId) = ["route-1"] := by
  refine (generateRedirections_permitted compare demoGateA crowdedForecasts demoRoutes
    [demoRejection] 300000 (by decide +kernel)).2.2.2 (by decide +kernel) ?_
    ⟨"gate-c", by decide, _, rfl, by decide +kernel⟩
  intro rejection listed
  cases List.mem_singleton.mp listed
  exact demoRejection_old

end Stadium
