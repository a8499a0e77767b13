import Stadium.CongestionForecaster.RiskComparison

/-!
# The pick as a minimum

Among the gates of strictly lower Risk_Level, `pickAlternativeGate` takes the
least by (current Risk_Level, current score, gate id). `localeCompare` is asked
about the gates of the map only, so it is assumed a strict total order on those.
A minimum of an order does not depend on the order in which the map was filled.
-/

namespace Stadium

/-- `localeCompare` is a strict total order on the ids in use. -/
structure OrdersIds (localeCompare : String → String → Ordering) (inUse : GateId → Prop) :
    Prop where
  swap : ∀ a b, inUse a → inUse b → localeCompare b a = (localeCompare a b).swap
  eq : ∀ a b, inUse a → inUse b → localeCompare a b = .eq → a = b
  trans : ∀ a b c, inUse a → inUse b → inUse c → localeCompare a b = .lt →
    localeCompare b c = .lt → localeCompare a c = .lt

/-- A lawful comparison of texts is one, whatever the ids. -/
theorem ordersIds_of_lawful (localeCompare : String → String → Ordering)
    [Std.TransCmp localeCompare] [Std.LawfulEqCmp localeCompare] (inUse : GateId → Prop) :
    OrdersIds localeCompare inUse where
  swap _ _ _ _ := Std.OrientedCmp.eq_swap
  eq _ _ _ _ := Std.LawfulEqCmp.eq_of_compare
  trans _ _ _ _ _ _ := Std.TransCmp.lt_trans

/-- The current Risk_Level and score of a gate; LOW and 0 without a forecast. -/
def currentLoad (forecastsByGate : OrderedMap GateId ForecastResult) (gateId : GateId) :
    ℕ ×ₗ ℤ :=
  toLex (riskOrderOf (currentRiskLevel (forecastsByGate.get? gateId)),
    currentScore (forecastsByGate.get? gateId))

/-- The order (current Risk_Level, current score, gate id). -/
def GoesBefore (localeCompare : String → String → Ordering)
    (forecastsByGate : OrderedMap GateId ForecastResult) (gateId other : GateId) : Prop :=
  currentLoad forecastsByGate gateId < currentLoad forecastsByGate other ∨
    currentLoad forecastsByGate gateId = currentLoad forecastsByGate other ∧
      localeCompare gateId other = .lt

/-- A gate of lower risk that goes before every other one. -/
def LeastLowerRiskGate (localeCompare : String → String → Ordering) (originGateId : GateId)
    (originRiskLevel : RiskLevel) (forecastsByGate : OrderedMap GateId ForecastResult)
    (gateId : GateId) : Prop :=
  LowerRiskGate originGateId originRiskLevel forecastsByGate gateId ∧
    ∀ other, LowerRiskGate originGateId originRiskLevel forecastsByGate other →
      other ≠ gateId → GoesBefore localeCompare forecastsByGate gateId other

section

variable {localeCompare : String → String → Ordering} {originGateId : GateId}
  {originRiskLevel : RiskLevel} {forecastsByGate : OrderedMap GateId ForecastResult}

/-- A candidate carries the load of its gate. -/
theorem load_of_candidate {candidate : AlternativeCandidate}
    (listed : candidate ∈ alternativeCandidates originGateId originRiskLevel forecastsByGate) :
    candidate.load = currentLoad forecastsByGate candidate.gateId ∧
      LowerRiskGate originGateId originRiskLevel forecastsByGate candidate.gateId := by
  refine ⟨?_, exists_candidate_iff.mp ⟨candidate, listed, rfl⟩⟩
  obtain ⟨⟨key, forecast⟩, entry, kept⟩ := List.mem_filterMap.mp listed
  simp only at kept
  split_ifs at kept with origin lower
  obtain rfl := Option.some.inj kept
  unfold currentLoad
  rw [OrderedMap.mem_entries.mp entry]
  rfl

/-- A gate of lower risk has a forecast. -/
theorem LowerRiskGate.inUse {gateId : GateId}
    (lower : LowerRiskGate originGateId originRiskLevel forecastsByGate gateId) :
    (forecastsByGate.get? gateId).isSome := by
  obtain ⟨-, forecast, found, -⟩ := lower
  simp [found]

section

variable (ordered : OrdersIds localeCompare fun gateId => (forecastsByGate.get? gateId).isSome)
include ordered

theorem OrdersIds.self {gateId : GateId} (inUse : (forecastsByGate.get? gateId).isSome) :
    localeCompare gateId gateId = .eq := by
  have swapped := ordered.swap gateId gateId inUse inUse
  cases compared : localeCompare gateId gateId <;> simp [compared] at swapped ⊢

/-- Ids in use that are not behind one another in turn are not behind in all. -/
theorem OrdersIds.ne_gt_trans {a b c : GateId} (ha : (forecastsByGate.get? a).isSome)
    (hb : (forecastsByGate.get? b).isSome) (hc : (forecastsByGate.get? c).isSome)
    (first : localeCompare a b ≠ .gt) (second : localeCompare b c ≠ .gt) :
    localeCompare a c ≠ .gt := by
  cases ab : localeCompare a b with
  | gt => exact absurd ab first
  | eq => rwa [ordered.eq a b ha hb ab]
  | lt =>
      cases bc : localeCompare b c with
      | gt => exact absurd bc second
      | eq => rwa [← ordered.eq b c hb hc bc]
      | lt => simp [ordered.trans a b c ha hb hc ab bc]

/-- **The pick goes before every other gate of lower risk.** -/
theorem leastLowerRiskGate_of_pick {gateId : GateId}
    (picked : pickAlternativeGate localeCompare originGateId originRiskLevel forecastsByGate =
      some gateId) :
    LeastLowerRiskGate localeCompare originGateId originRiskLevel forecastsByGate gateId := by
  refine ⟨lowerRiskGate_of_pick picked, ?_⟩
  intro other lower different
  obtain ⟨rival, listed', rfl⟩ := exists_candidate_iff.mpr lower
  unfold pickAlternativeGate at picked
  obtain ⟨candidate, first, rfl⟩ := Option.map_eq_some_iff.mp picked
  have listed := (List.mem_insertionSort _).mp (List.mem_of_head? first)
  have least : compareCandidates localeCompare candidate rival ≠ .gt := by
    refine FirstLeast.rel_of_head? (R := fun a b => compareCandidates localeCompare a b ≠ .gt)
      (fun a _ b _ => id) ?_ ?_ ?_ first rival listed'
    · intro a ha b hb behind
      have inUse := (load_of_candidate ha).2.inUse
      have inUse' := (load_of_candidate hb).2.inUse
      rw [compareCandidates_ne_gt] at behind ⊢
      rcases lt_trichotomy a.load b.load with less | same | more
      · exact absurd (.inl less) behind
      · refine .inr ⟨same.symm, ?_⟩
        rw [ordered.swap _ _ inUse inUse']
        intro swapped
        apply behind
        refine .inr ⟨same, ?_⟩
        intro greater
        rw [greater] at swapped
        cases swapped
      · exact .inl more
    · intro a ha
      rw [compareCandidates_ne_gt, ordered.self (load_of_candidate ha).2.inUse]
      simp
    · intro a ha b hb c hc
      simp only [compareCandidates_ne_gt]
      rintro (less | ⟨same, ids⟩) (less' | ⟨same', ids'⟩)
      · exact .inl (less.trans less')
      · exact .inl (less.trans_eq same')
      · exact .inl (same.trans_lt less')
      · exact .inr ⟨same.trans same', ordered.ne_gt_trans (load_of_candidate ha).2.inUse
          (load_of_candidate hb).2.inUse (load_of_candidate hc).2.inUse ids ids'⟩
  rw [compareCandidates_ne_gt, (load_of_candidate listed).1, (load_of_candidate listed').1] at least
  rcases least with less | ⟨same, ids⟩
  · exact .inl less
  · refine .inr ⟨same, ?_⟩
    cases compared : localeCompare candidate.gateId rival.gateId with
    | lt => rfl
    | gt => exact absurd compared ids
    | eq => exact absurd (ordered.eq _ _ (load_of_candidate listed).2.inUse
        (load_of_candidate listed').2.inUse compared).symm different

/-- No two gates in use go before one another. -/
theorem OrdersIds.goesBefore_asymm {a b : GateId} (ha : (forecastsByGate.get? a).isSome)
    (hb : (forecastsByGate.get? b).isSome) (before : GoesBefore localeCompare forecastsByGate a b) :
    ¬ GoesBefore localeCompare forecastsByGate b a := by
  rintro (less' | ⟨same', ids'⟩)
  · rcases before with less | ⟨same, -⟩
    · exact lt_asymm less less'
    · exact less'.ne' same
  · rcases before with less | ⟨-, ids⟩
    · exact less.ne' same'
    · rw [ordered.swap a b ha hb, ids] at ids'
      cases ids'

theorem LeastLowerRiskGate.unique {a b : GateId}
    (ha : LeastLowerRiskGate localeCompare originGateId originRiskLevel forecastsByGate a)
    (hb : LeastLowerRiskGate localeCompare originGateId originRiskLevel forecastsByGate b) :
    a = b := by
  by_contra different
  exact ordered.goesBefore_asymm ha.1.inUse hb.1.inUse (ha.2 b hb.1 (Ne.symm different))
    (hb.2 a ha.1 different)

/-- Being picked is being the least gate of lower risk. -/
theorem pickAlternativeGate_eq_some_iff {gateId : GateId} :
    pickAlternativeGate localeCompare originGateId originRiskLevel forecastsByGate =
        some gateId ↔
      LeastLowerRiskGate localeCompare originGateId originRiskLevel forecastsByGate gateId := by
  constructor
  · exact leastLowerRiskGate_of_pick ordered
  · intro least
    obtain ⟨other, picked⟩ :=
      Option.isSome_iff_exists.mp (pick_isSome_of_lowerRiskGate localeCompare least.1)
    rw [picked, LeastLowerRiskGate.unique ordered (leastLowerRiskGate_of_pick ordered picked) least]

end

theorem pickAlternativeGate_eq_none_iff :
    pickAlternativeGate localeCompare originGateId originRiskLevel forecastsByGate = none ↔
      ∀ gateId, ¬ LowerRiskGate originGateId originRiskLevel forecastsByGate gateId := by
  constructor
  · intro none gateId lower
    have some := pick_isSome_of_lowerRiskGate localeCompare lower
    rw [none] at some
    cases some
  · intro alone
    rw [Option.eq_none_iff_forall_ne_some]
    intro gateId picked
    exact alone gateId (lowerRiskGate_of_pick picked)

/-- **The pick is a minimum and no matter of insertion order.** -/
theorem pickAlternativeGate_order_independent (originGateId : GateId) (originRiskLevel : RiskLevel)
    (forecastsByGate : OrderedMap GateId ForecastResult)
    (ordered : OrdersIds localeCompare fun gateId => (forecastsByGate.get? gateId).isSome) :
    (pickAlternativeGate localeCompare originGateId originRiskLevel forecastsByGate = none ↔
      ∀ gateId, ¬ LowerRiskGate originGateId originRiskLevel forecastsByGate gateId) ∧
    (∀ gateId, pickAlternativeGate localeCompare originGateId originRiskLevel forecastsByGate =
        some gateId →
      LeastLowerRiskGate localeCompare originGateId originRiskLevel forecastsByGate gateId ∧
        ∀ other, LeastLowerRiskGate localeCompare originGateId originRiskLevel forecastsByGate
          other → other = gateId) ∧
    ∀ permuted : OrderedMap GateId ForecastResult,
      permuted.entries.Perm forecastsByGate.entries →
        pickAlternativeGate localeCompare originGateId originRiskLevel permuted =
          pickAlternativeGate localeCompare originGateId originRiskLevel forecastsByGate := by
  refine ⟨pickAlternativeGate_eq_none_iff, ?_, ?_⟩
  · intro gateId picked
    have least := leastLowerRiskGate_of_pick ordered picked
    exact ⟨least, fun other least' => LeastLowerRiskGate.unique ordered least' least⟩
  · intro permuted same
    have found : permuted.get? = forecastsByGate.get? := funext (OrderedMap.get?_of_perm same)
    apply Option.ext
    intro gateId
    rw [pickAlternativeGate_eq_some_iff ordered,
      pickAlternativeGate_eq_some_iff (by rwa [found])]
    unfold LeastLowerRiskGate LowerRiskGate GoesBefore currentLoad
    simp only [found]

/-- A forecast without scores counts as LOW with score 0. -/
def noScores : ForecastResult := { scores := [], lowConfidence := true }

/-- Gate C reported first, gate B is still taken. -/
theorem pickAlternativeGate_order_independent_demo :
    pickAlternativeGate compare "gate-a" .critical
      (.ofList [("gate-c", noScores), ("gate-b", noScores)]) = some "gate-b" := by
  have filled := (pickAlternativeGate_order_independent "gate-a" .critical
    (.ofList [("gate-b", noScores), ("gate-c", noScores)])
    (ordersIds_of_lawful compare _)).2.2
    (.ofList [("gate-c", noScores), ("gate-b", noScores)]) (List.Perm.swap _ _ _)
  rw [filled]
  decide

end

end Stadium
