import HLiquity.StoreEvents
import HLiquity.StoreRun

/-!
# What a notification reports as changed

A notification reports the state variables whose references differ. The reducers
keep the old reference of every value that is equal to the new one, so these are
the variables whose values differ, but two allowances are compared by reference
and count as changed whenever a new object is supplied for them.
-/

namespace HLiquity

variable {constants : Constants}

/-- A new object of the old value is supplied. -/
def Renewed (before : Obj Decimal) (supplied : Option (Obj Decimal)) : Prop :=
  ∃ next, supplied = some next ∧ next.address ≠ before.address ∧ next.value = before.value

/-- A base variable is reported exactly if its value differs. -/
def BaseKey.ReportedExactly (key : BaseKey) (before after : key.Value constants)
    (reported : Option (key.Value constants)) : Prop :=
  (key.SameValue before after → reported = none) ∧
    (¬ key.SameValue before after → reported = some after)

/-- A derived variable is reported exactly if its value differs. -/
def DerivedKey.ReportedExactly (key : DerivedKey) (before after : key.Value constants)
    (reported : Option (key.Value constants)) : Prop :=
  (key.equals before after = true → reported = none) ∧
    (key.equals before after = false → reported = some after)

/-- A base variable that is compared by its value is reported exactly. -/
theorem BaseKey.reportedExactly {key : BaseKey} (hhchf : key ≠ .hchfTokenAllowanceOfHchfContract)
    (hhlqt : key ≠ .hlqtTokenAllowanceOfHlqtContract) {before : key.Value constants}
    {supplied : Option (key.Value constants)}
    (hreferences : ∀ next, supplied = some next → key.strictEquals next before = true →
      key.SameValue next before) :
    let after := KeepIfEqual.keep key.equals before supplied
    key.ReportedExactly before after
      (if key.strictEquals after before then none else some after) := by
  intro after
  cases supplied with
  | none =>
      have hidentical : key.strictEquals after before = true := key.strictEquals_refl before
      rw [if_pos hidentical]
      exact ⟨fun _ => rfl, fun hdiffers => absurd (key.sameValue_refl before) hdiffers⟩
  | some next =>
      have hidentical : key.strictEquals after before = key.equals before next :=
        KeepIfEqual.identical_keep key.equals key.strictEquals_refl fun h =>
          key.equals_of_sameValue hhchf hhlqt (key.sameValue_symm (hreferences next rfl h))
      rw [hidentical]
      by_cases hequals : key.equals before next = true
      · have hkept : after = before := if_pos hequals
        rw [if_pos hequals, hkept]
        exact ⟨fun _ => rfl, fun hdiffers => absurd (key.sameValue_refl before) hdiffers⟩
      · have htaken : after = next := if_neg hequals
        rw [if_neg hequals, htaken]
        exact ⟨fun hsame => absurd (key.equals_of_sameValue hhchf hhlqt hsame) hequals,
          fun _ => rfl⟩

/-- An allowance that is compared by reference is reported exactly unless a new object
of the old value is supplied. -/
theorem reportedExactly_allowance_iff (before : Obj Decimal) (supplied : Option (Obj Decimal)) :
    let after := KeepIfEqual.keep Obj.strictEquals before supplied
    let reported := if Obj.strictEquals after before then none else some after
    ((before.value = after.value → reported = none) ∧
        (before.value ≠ after.value → reported = some after)) ↔
      ¬ Renewed before supplied := by
  intro after reported
  cases supplied with
  | none =>
      have hidentical : Obj.strictEquals after before = true := beq_self_eq_true _
      have hnone : reported = none := if_pos hidentical
      refine iff_of_true ⟨fun _ => hnone, fun hdiffers => absurd rfl hdiffers⟩ ?_
      rintro ⟨next, hnext, _⟩
      cases hnext
  | some next =>
      by_cases hequals : Obj.strictEquals before next = true
      · have haddress : before.address = next.address := beq_iff_eq.mp hequals
        have hkept : after = before := if_pos hequals
        have hidentical : Obj.strictEquals after before = true := by
          rw [hkept]
          exact beq_self_eq_true _
        have hnone : reported = none := if_pos hidentical
        rw [hkept]
        refine iff_of_true ⟨fun _ => hnone, fun hdiffers => absurd rfl hdiffers⟩ ?_
        rintro ⟨_, ⟨⟩, hdiffers, _⟩
        exact hdiffers haddress.symm
      · have haddress : next.address ≠ before.address :=
          fun heq => hequals (beq_iff_eq.mpr heq.symm)
        have htaken : after = next := if_neg hequals
        have hidentical : ¬ Obj.strictEquals after before = true := by
          rw [htaken]
          exact fun h => haddress (beq_iff_eq.mp h)
        have hsome : reported = some after := if_neg hidentical
        rw [hsome, htaken]
        constructor
        · rintro ⟨hsame, _⟩ ⟨_, ⟨⟩, _, hvalue⟩
          cases hsame hvalue.symm
        · intro hnew
          refine ⟨fun hsame => ?_, fun _ => rfl⟩
          exact absurd ⟨next, rfl, haddress, Eq.symm hsame⟩ hnew

/-- A derived variable is reported exactly if the new object is not the old one. -/
theorem DerivedKey.reportedExactly {key : DerivedKey} {before computed : key.Value constants}
    (hfresh : key.strictEquals computed before = true → key.equals before computed = true) :
    let after := KeepIfEqual.keep key.equals before (some computed)
    key.ReportedExactly before after
      (if key.strictEquals after before then none else some after) := by
  intro after
  have hidentical : key.strictEquals after before = key.equals before computed :=
    KeepIfEqual.identical_keep key.equals key.strictEquals_refl hfresh
  rw [hidentical]
  by_cases hequals : key.equals before computed = true
  · have hkept : after = before := if_pos hequals
    rw [if_pos hequals, hkept]
    exact ⟨fun _ => rfl, fun hdiffers => by rw [key.equals_refl] at hdiffers; cases hdiffers⟩
  · have htaken : after = computed := if_neg hequals
    rw [if_neg hequals, htaken]
    exact ⟨fun hsame => absurd hsame hequals, fun _ => rfl⟩

/-- A derived object is among the first ones that the store has allocated. -/
def DerivedKey.AllocatedBelow (allocations : Nat) :
    (key : DerivedKey) → key.Value constants → Prop
  | .trove, value => ∃ index < allocations, value.address = .allocated index
  | .fees, value => ∃ index < allocations, value.address = .allocated index
  | .borrowingRate, value | .redemptionRate, value =>
      ∃ index < allocations, value.address = .allocated index
  | .haveUndercollateralizedTroves, _ => True

theorem DerivedKey.AllocatedBelow.mono {allocations more : Nat} (hle : allocations ≤ more)
    {key : DerivedKey} {value : key.Value constants} (h : key.AllocatedBelow allocations value) :
    key.AllocatedBelow more value := by
  cases key with
  | haveUndercollateralizedTroves => trivial
  | _ =>
      obtain ⟨index, hlt, haddress⟩ := h
      exact ⟨index, Nat.lt_of_lt_of_le hlt hle, haddress⟩

/-- A derivation allocates its four objects one after the other. -/
theorem derive_addresses {baseState : LiquityStoreBaseState constants} {allocations : Nat}
    {computed : LiquityStoreDerivedState constants}
    (h : derive baseState allocations = .ok computed) :
    computed.trove.address = .allocated allocations ∧
      computed.fees.address = .allocated (allocations + 1) ∧
      computed.borrowingRate.address = .allocated (allocations + 2) ∧
      computed.redemptionRate.address = .allocated (allocations + 3) := by
  obtain ⟨fees, _, h⟩ := Result.bind_eq_ok.mp h
  obtain ⟨trove, _, h⟩ := Result.bind_eq_ok.mp h
  obtain ⟨borrowingRate, _, h⟩ := Result.bind_eq_ok.mp h
  obtain ⟨redemptionRate, _, h⟩ := Result.bind_eq_ok.mp h
  obtain ⟨riskiestTrove, _, h⟩ := Result.bind_eq_ok.mp h
  cases h
  exact ⟨rfl, rfl, rfl, rfl⟩

theorem allocatedBelow_of_derive {baseState : LiquityStoreBaseState constants}
    {allocations : Nat} {computed : LiquityStoreDerivedState constants}
    (h : derive baseState allocations = .ok computed) (key : DerivedKey) :
    key.AllocatedBelow (allocations + 4) (computed.get key) := by
  obtain ⟨htrove, hfees, hborrowing, hredemption⟩ := derive_addresses h
  cases key with
  | trove => exact ⟨_, by omega, htrove⟩
  | fees => exact ⟨_, by omega, hfees⟩
  | borrowingRate => exact ⟨_, by omega, hborrowing⟩
  | redemptionRate => exact ⟨_, by omega, hredemption⟩
  | haveUndercollateralizedTroves => trivial

/-- A newly derived object is none of the old ones. -/
theorem equals_of_strictEquals_derive {baseState : LiquityStoreBaseState constants}
    {allocations : Nat} {computed : LiquityStoreDerivedState constants}
    (h : derive baseState allocations = .ok computed) {key : DerivedKey}
    {before : key.Value constants} (hbefore : key.AllocatedBelow allocations before)
    (hidentical : key.strictEquals (computed.get key) before = true) :
    key.equals before (computed.get key) = true := by
  obtain ⟨htrove, hfees, hborrowing, hredemption⟩ := derive_addresses h
  have hdistinct {offset : Nat} {new old : Address} (hidentical : (new == old) = true)
      (hnew : new = .allocated (allocations + offset))
      (hold : ∃ index < allocations, old = .allocated index) : False := by
    obtain ⟨index, hlt, haddress⟩ := hold
    rw [beq_iff_eq, hnew, haddress, Address.allocated.injEq] at hidentical
    omega
  cases key with
  | haveUndercollateralizedTroves =>
      rw [DerivedKey.equals_comm]
      exact hidentical
  | trove =>
      have hzero : computed.trove.address = .allocated (allocations + 0) := htrove
      exact (hdistinct hidentical hzero hbefore).elim
  | fees => exact (hdistinct hidentical hfees hbefore).elim
  | borrowingRate => exact (hdistinct hidentical hborrowing hbefore).elim
  | redemptionRate => exact (hdistinct hidentical hredemption hbefore).elim

namespace HLiquityStore

section Notification

variable {E : ExtraState} {this : HLiquityStore constants E}

/-- What an update notifies, whether its listeners return or throw. -/
theorem notifiedBy_eq_some {baseState : LiquityStoreBaseState constants}
    {derivedState : LiquityStoreDerivedState constants} (hb : this.baseState = some baseState)
    (hd : this.derivedState = some derivedState) {call : UpdateCall constants E}
    {params : LiquityStoreListenerParams constants E} (h : this.notifiedBy call = some params) :
    ∃ computed extraState,
      derive (reducedBase baseState call.base) this.allocations = .ok computed ∧
      reducedExtra this.extraState call.extra = .ok extraState ∧
      params.oldState = this.state ∧
      params.newState =
        ⟨reducedBase baseState call.base, reduceDerived derivedState computed, extraState⟩ ∧
      params.stateChange = difference params.newState params.oldState := by
  unfold notifiedBy afterUpdate at h
  rcases update_cases hb hd call.base call.extra with
    ⟨failure, hderive, hupdate⟩ | ⟨derived, failure, hderive, hextra, hupdate⟩ |
    ⟨computed, extraState, hderive, hextra, hupdate⟩
  · simp [hupdate, withBase] at h
  · simp [hupdate, withBase] at h
  · rw [hupdate] at h
    simp only [updated, notify, withBase, List.drop_left, Option.some.injEq] at h
    subst h
    exact ⟨computed, extraState, hderive, hextra, rfl, rfl, rfl⟩

/-- The values of a key that a load and updates supply. -/
def suppliedValues (loaded : LiquityStoreBaseState constants)
    (calls : List (UpdateCall constants E)) (key : BaseKey) : List (key.Value constants) :=
  loaded.get key :: calls.filterMap (·.supplied key)

theorem suppliedValues_subset (loaded : LiquityStoreBaseState constants)
    (calls later : List (UpdateCall constants E)) (key : BaseKey) :
    suppliedValues loaded calls key ⊆ suppliedValues loaded (calls ++ later) key := by
  rw [suppliedValues, suppliedValues, List.filterMap_append]
  exact List.cons_subset_cons _ (List.subset_append_left _ _)

theorem supplied_mem (loaded : LiquityStoreBaseState constants)
    (calls : List (UpdateCall constants E)) {call : UpdateCall constants E} {key : BaseKey}
    {next : key.Value constants} (h : call.supplied key = some next) :
    next ∈ suppliedValues loaded (calls ++ [call]) key := by
  simp [suppliedValues, h]

/-- One reference refers to one object. -/
def References (loaded : LiquityStoreBaseState constants)
    (calls : List (UpdateCall constants E)) : Prop :=
  ∀ key : BaseKey, ∀ a ∈ suppliedValues loaded calls key, ∀ b ∈ suppliedValues loaded calls key,
    key.strictEquals a b = true → key.SameValue a b

/-- What a store holds after a load and updates: supplied values, and derived objects
that it has allocated. -/
structure Holds (loaded : LiquityStoreBaseState constants)
    (calls : List (UpdateCall constants E)) (this : HLiquityStore constants E) : Prop where
  base : ∃ baseState, this.baseState = some baseState ∧
    ∀ key : BaseKey, baseState.get key ∈ suppliedValues loaded calls key
  derived : ∃ derivedState, this.derivedState = some derivedState ∧
    ∀ key : DerivedKey, key.AllocatedBelow this.allocations (derivedState.get key)

/-- A reduced derived state holds old and new objects. -/
theorem allocatedBelow_reduceDerived {baseState : LiquityStoreBaseState constants}
    {allocations : Nat} {before computed : LiquityStoreDerivedState constants}
    (hbefore : ∀ key : DerivedKey, key.AllocatedBelow allocations (before.get key))
    (hderive : derive baseState allocations = .ok computed) (key : DerivedKey) :
    key.AllocatedBelow (allocations + 4) ((reduceDerived before computed).get key) := by
  rw [reduceDerived_get]
  rcases KeepIfEqual.keep_eq_or key.equals (before.get key) (computed.get key) with hkept | htaken
  · rw [hkept]
    exact (hbefore key).mono (Nat.le_add_right _ _)
  · rw [htaken]
    exact allocatedBelow_of_derive hderive key

/-- A load that returns establishes it. -/
theorem holds_load (hunloaded : this.loaded = false) {baseState : LiquityStoreBaseState constants}
    (hderivable : baseState.Derivable) (extraState : Option E.State) :
    Holds baseState [] (this.load baseState extraState).2 := by
  obtain ⟨derived, again, hderive, hagain, hload⟩ :=
    load_of_derivable hunloaded hderivable extraState
  rw [hload]
  constructor
  · exact ⟨baseState, rfl, fun _ => List.mem_cons_self⟩
  · exact ⟨_, rfl, allocatedBelow_reduceDerived (allocatedBelow_of_derive hderive) hagain⟩

/-- A reduced base state holds old and supplied values. -/
theorem reducedBase_mem {loaded baseState : LiquityStoreBaseState constants}
    {calls : List (UpdateCall constants E)}
    (h : ∀ key : BaseKey, baseState.get key ∈ suppliedValues loaded calls key)
    (call : UpdateCall constants E) (key : BaseKey) :
    (reducedBase baseState call.base).get key ∈ suppliedValues loaded (calls ++ [call]) key := by
  have hbefore := suppliedValues_subset loaded calls [call] key (h key)
  rw [reducedBase_get]
  cases hsupplied : call.supplied key with
  | none => exact hbefore
  | some next =>
      rcases KeepIfEqual.keep_eq_or key.equals (baseState.get key) next with hkept | htaken
      · rw [hkept]
        exact hbefore
      · rw [htaken]
        exact supplied_mem loaded calls hsupplied

/-- Every update keeps it, also one that throws. -/
theorem Holds.afterUpdate {loaded : LiquityStoreBaseState constants}
    {calls : List (UpdateCall constants E)} (h : Holds loaded calls this)
    (call : UpdateCall constants E) : Holds loaded (calls ++ [call]) (this.afterUpdate call) := by
  obtain ⟨⟨baseState, hb, hbase⟩, derivedState, hd, hderived⟩ := h
  have hsupplied := reducedBase_mem hbase call
  unfold HLiquityStore.afterUpdate
  rcases update_cases hb hd call.base call.extra with
    ⟨failure, hderive, hupdate⟩ | ⟨computed, failure, hderive, _, hupdate⟩ |
    ⟨computed, extraState, hderive, _, hupdate⟩
  · rw [hupdate]
    exact ⟨⟨_, rfl, hsupplied⟩, derivedState, hd,
      fun key => (hderived key).mono (Nat.le_add_right _ _)⟩
  · rw [hupdate]
    exact ⟨⟨_, rfl, hsupplied⟩, _, rfl, allocatedBelow_reduceDerived hderived hderive⟩
  · rw [hupdate]
    exact ⟨⟨_, rfl, hsupplied⟩, _, rfl, allocatedBelow_reduceDerived hderived hderive⟩

theorem Holds.run {loaded : LiquityStoreBaseState constants} (h : Holds loaded [] this)
    (calls : List (UpdateCall constants E)) :
    Holds loaded calls (EventRun.run HLiquityStore.afterUpdate this calls) := by
  induction calls using List.reverseRecOn with
  | nil => exact h
  | append_singleton calls call ih =>
      rw [EventRun.run_append]
      exact ih.afterUpdate call

end Notification

/-- A notification reports exactly the state variables whose values differ, each with
its new value. -/
structure ReportsExactly {implementation : StoreImplementation constants}
    (params : LiquityStoreListenerParams constants implementation.extra) : Prop where
  base : ∀ key : BaseKey, key.ReportedExactly (params.oldState.base.get key)
    (params.newState.base.get key) (params.stateChange.base key)
  derived : ∀ key : DerivedKey, key.ReportedExactly (params.oldState.derived.get key)
    (params.newState.derived.get key) (params.stateChange.derived key)
  extra : params.stateChange.extra =
    (match (params.oldState.extra : Option BlockExtraState),
        (params.newState.extra : Option BlockExtraState) with
      | some before, some after =>
          ⟨if after.blockTag = before.blockTag then none else some after.blockTag,
            if after.blockTimestamp = before.blockTimestamp then none
            else some after.blockTimestamp⟩
      | _, _ => ⟨none, none⟩ : BlockExtraUpdate)

/-- The difference of two extra states names what differs between them. -/
theorem extraDifference_eq (before after : Option BlockExtraState) :
    after.isSome = before.isSome → BlockExtraState.difference after before =
      (match before, after with
        | some before, some after =>
            ⟨if after.blockTag = before.blockTag then none else some after.blockTag,
              if after.blockTimestamp = before.blockTimestamp then none
              else some after.blockTimestamp⟩
        | _, _ => ⟨none, none⟩ : BlockExtraUpdate) := by
  intro hboth
  cases before with
  | none =>
      cases after with
      | none => rfl
      | some after => cases hboth
  | some before =>
      cases after with
      | none => cases hboth
      | some after => simp [BlockExtraState.difference]

section Exactness

variable {implementation : StoreImplementation constants}
  {this : HLiquityStore constants implementation.extra}

/-- An update reports exactly what it changes unless it supplies a new object of the old
value for one of the two allowances. -/
theorem Holds.exactly_iff {loaded : LiquityStoreBaseState constants}
    {calls : List (UpdateCall constants implementation.extra)}
    {call : UpdateCall constants implementation.extra} (h : Holds loaded calls this)
    (hreferences : References loaded (calls ++ [call]))
    {params : LiquityStoreListenerParams constants implementation.extra}
    (hparams : this.notifiedBy call = some params) :
    ReportsExactly params ↔
      ¬ Renewed this.state.base.hchfTokenAllowanceOfHchfContract
          (call.supplied .hchfTokenAllowanceOfHchfContract) ∧
      ¬ Renewed this.state.base.hlqtTokenAllowanceOfHlqtContract
          (call.supplied .hlqtTokenAllowanceOfHlqtContract) := by
  obtain ⟨⟨baseState, hb, hbase⟩, derivedState, hd, hderived⟩ := h
  obtain ⟨computed, extraState, hderive, hextra, hold, hnew, hchange⟩ :=
    notifiedBy_eq_some hb hd hparams
  have hstateBase : this.state.base = baseState := congrArg (Option.getD · _) hb
  have hstateDerived : this.state.derived = derivedState := congrArg (Option.getD · _) hd
  -- what is reported of a base variable: the kept value if it is not the old one
  have hreported (key : BaseKey) :
      key.ReportedExactly (params.oldState.base.get key) (params.newState.base.get key)
          (params.stateChange.base key) ↔
        let after := KeepIfEqual.keep key.equals (baseState.get key) (call.supplied key)
        key.ReportedExactly (baseState.get key) after
          (if key.strictEquals after (baseState.get key) then none else some after) := by
    rw [hchange, hold, hnew]
    simp only [difference, hstateBase, reducedBase_get]
  rw [hstateBase]
  constructor
  · intro hexact
    constructor
    · exact (reportedExactly_allowance_iff _ _).mp
        ((hreported .hchfTokenAllowanceOfHchfContract).mp (hexact.base _))
    · exact (reportedExactly_allowance_iff _ _).mp
        ((hreported .hlqtTokenAllowanceOfHlqtContract).mp (hexact.base _))
  · rintro ⟨hhchf, hhlqt⟩
    constructor
    · intro key
      rw [hreported]
      by_cases hkeyHchf : key = .hchfTokenAllowanceOfHchfContract
      · subst hkeyHchf
        exact (reportedExactly_allowance_iff _ _).mpr hhchf
      · by_cases hkeyHlqt : key = .hlqtTokenAllowanceOfHlqtContract
        · subst hkeyHlqt
          exact (reportedExactly_allowance_iff _ _).mpr hhlqt
        · refine key.reportedExactly hkeyHchf hkeyHlqt fun next hnext hidentical => ?_
          exact hreferences key next (supplied_mem loaded calls hnext) _
            (suppliedValues_subset loaded calls [call] key (hbase key)) hidentical
    · intro key
      rw [hchange, hold, hnew]
      simp only [difference, hstateDerived, reduceDerived_get]
      exact key.reportedExactly (equals_of_strictEquals_derive hderive (hderived key))
    · have hboth : (params.newState.extra : Option BlockExtraState).isSome =
          (params.oldState.extra : Option BlockExtraState).isSome := by
        rw [hold, hnew]
        exact reducedExtra_isSome hextra
      rw [hchange]
      refine (extraDifference_eq _ _ hboth).trans ?_
      cases (params.oldState.extra : Option BlockExtraState) <;>
        cases (params.newState.extra : Option BlockExtraState) <;> rfl

/-- After a load and any updates, an update reports exactly what it changes unless it
supplies a new object of the old value for one of the two allowances. -/
theorem reportsExactly_iff (hunloaded : this.loaded = false)
    {baseState : LiquityStoreBaseState constants} (hderivable : baseState.Derivable)
    (extraState : Option BlockExtraState)
    (calls : List (UpdateCall constants implementation.extra))
    (call : UpdateCall constants implementation.extra)
    (hreferences : References baseState (calls ++ [call])) :
    let before := EventRun.run afterUpdate (this.load baseState extraState).2 calls
    ∀ params, before.notifiedBy call = some params →
      (ReportsExactly params ↔
        ¬ Renewed before.state.base.hchfTokenAllowanceOfHchfContract
            (call.supplied .hchfTokenAllowanceOfHchfContract) ∧
        ¬ Renewed before.state.base.hlqtTokenAllowanceOfHlqtContract
            (call.supplied .hlqtTokenAllowanceOfHlqtContract)) := by
  intro before params hparams
  have hload : Holds baseState [] (this.load baseState extraState).2 :=
    holds_load hunloaded hderivable extraState
  exact (hload.run calls).exactly_iff hreferences hparams

end Exactness

/-- A new price. -/
def newPrice {E : ExtraState} : UpdateCall defaults E :=
  ⟨some fun
    | .price => some ⟨.supplied 0 0, Decimal.one⟩
    | _ => none, none⟩

/-- A new object for an allowance of zero, as each fetch supplies it. -/
def zeroAllowance {E : ExtraState} : UpdateCall defaults E :=
  ⟨some fun
    | .hchfTokenAllowanceOfHchfContract => some ⟨.supplied 0 0, Decimal.zero⟩
    | _ => none, none⟩

theorem references_newPrice {E : ExtraState} :
    References defaultBaseState [(newPrice : UpdateCall defaults E)] := by
  intro key
  cases key with
  | price =>
      intro a ha b hb hidentical
      simp only [suppliedValues, List.filterMap_cons, List.filterMap_nil, newPrice,
        UpdateCall.supplied, Option.bind_some, List.mem_cons, List.not_mem_nil, or_false] at ha hb
      rcases ha with rfl | rfl <;> rcases hb with rfl | rfl
      · rfl
      · cases hidentical
      · cases hidentical
      · rfl
  | _ =>
      intro a ha b hb _
      obtain rfl := List.mem_singleton.mp ha
      obtain rfl := List.mem_singleton.mp hb
      exact BaseKey.sameValue_refl _ _

/-- A loaded store reports a new price exactly. -/
theorem reportsExactly_iff_newPrice :
    let loaded := ((new : HLiquityStore defaults (StoreImplementation.extra
      (HashgraphLiquity.implementation exampleOptions))).load defaultBaseState (some ⟨none, 0⟩)).2
    ∃ params, loaded.notifiedBy newPrice = some params ∧ ReportsExactly params := by
  have hunloaded : (new : HLiquityStore defaults (StoreImplementation.extra
    (HashgraphLiquity.implementation exampleOptions : StoreImplementation defaults))).loaded =
      false := rfl
  refine ⟨_, rfl, ?_⟩
  refine (reportsExactly_iff hunloaded (by decide) (some ⟨none, 0⟩) [] newPrice
    references_newPrice _ rfl).mpr ⟨?_, ?_⟩
  · rintro ⟨_, ⟨⟩, _⟩
  · rintro ⟨_, ⟨⟩, _⟩

/-- An allowance of zero that is supplied again is reported, although it is still zero. -/
theorem unchanged_allowance_reported :
    let loaded := ((new : HLiquityStore defaults (StoreImplementation.extra
      (HashgraphLiquity.implementation exampleOptions))).load defaultBaseState (some ⟨none, 0⟩)).2
    ∃ params, loaded.notifiedBy zeroAllowance = some params ∧
      (params.oldState.base.get .hchfTokenAllowanceOfHchfContract : Obj Decimal).value =
        (params.newState.base.get .hchfTokenAllowanceOfHchfContract : Obj Decimal).value ∧
      params.stateChange.base .hchfTokenAllowanceOfHchfContract =
        some (⟨.supplied 0 0, Decimal.zero⟩ : Obj Decimal) ∧
      ¬ ReportsExactly params := by
  refine ⟨_, rfl, rfl, rfl, ?_⟩
  intro hexact
  cases (hexact.base .hchfTokenAllowanceOfHchfContract).1 rfl

end HLiquityStore

end HLiquity
