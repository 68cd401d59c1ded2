import HLiquity.StoreState
import HLiquity.TroveReplay

/-!
# Shares of a redistribution

A trove with pending redistribution receives, for each component, its stake
times what has been redistributed since its snapshot, rounded down. The shares
of troves with a common snapshot therefore never exceed what their stakes
entitle them to, and fall short of it by less than one unit for each trove.
-/

namespace HLiquity

open Decimal

namespace TroveWithPendingRedistribution

variable {constants : Constants}

/-- The share of one component, in units. -/
def share (this : TroveWithPendingRedistribution constants) (total : Trove constants)
    (component : SetToZero) : Nat :=
  this.stake.bigNumber *
    ((total.component component).bigNumber -
      (this.snapshotOfTotalRedistributed.component component).bigNumber) / digits

/-- A share is the rounded product of the library. -/
theorem share_eq (this : TroveWithPendingRedistribution constants) (total : Trove constants)
    (component : SetToZero) :
    this.share total component =
      ScaledRounding.mulFloor digits
        ((total.component component).bigNumber -
          (this.snapshotOfTotalRedistributed.component component).bigNumber)
        this.stake.bigNumber := rfl

/-- The redistribution adds the share to each component and keeps the owner. -/
theorem applyRedistribution_share (this : TroveWithPendingRedistribution constants)
    (total : Trove constants) :
    ∃ reached, this.applyRedistribution total = .ok reached ∧
      reached.ownerAddress = this.ownerAddress ∧ reached.status = this.status ∧
      ∀ component, (reached.component component).bigNumber =
        (this.component component).bigNumber + this.share total component := by
  refine ⟨_, applyRedistribution_eq this total, rfl, rfl, ?_⟩
  intro component
  cases component with
  | collateral =>
      simp only [Trove.component, Trove.add, Trove.multiply, add_bigNumber, mul_bigNumber, share,
        ScaledRounding.mulFloor, Trove.monus_bigNumber, Nat.mul_comm]
  | debt =>
      simp only [Trove.component, Trove.add, Trove.multiply, add_bigNumber, mul_bigNumber, share,
        ScaledRounding.mulFloor, Trove.monus_bigNumber, Nat.mul_comm]

theorem share_of_applyRedistribution {this : TroveWithPendingRedistribution constants}
    {total : Trove constants} {reached : UserTrove constants}
    (h : this.applyRedistribution total = .ok reached) (component : SetToZero) :
    (reached.component component).bigNumber =
      (this.component component).bigNumber + this.share total component := by
  obtain ⟨_, happly, _, _, hshare⟩ := this.applyRedistribution_share total
  cases h.symm.trans happly
  exact hshare component

/-- Up to the snapshot nothing is shared. -/
theorem share_of_le (this : TroveWithPendingRedistribution constants) {total : Trove constants}
    {component : SetToZero}
    (h : total.component component ≤ this.snapshotOfTotalRedistributed.component component) :
    this.share total component = 0 := by
  rw [share, Nat.sub_eq_zero_of_le (le_def.mp h), Nat.mul_zero, Nat.zero_div]

theorem share_mono (this : TroveWithPendingRedistribution constants)
    {total total' : Trove constants} {component : SetToZero}
    (h : total.component component ≤ total'.component component) :
    this.share total component ≤ this.share total' component := by
  apply Nat.div_le_div_right
  apply Nat.mul_le_mul_left
  exact Nat.sub_le_sub_right (le_def.mp h) _

/-- The trove after a redistribution, with the totals as its new snapshot. -/
def withSnapshot (reached : UserTrove constants) (stake : Decimal) (total : Trove constants) :
    TroveWithPendingRedistribution constants :=
  ⟨reached, stake, total⟩

/-- Two steps through growing totals share at most as much as one, and at most
one unit less. -/
theorem share_two_steps (this : TroveWithPendingRedistribution constants)
    (reached : UserTrove constants) {first second : Trove constants} {component : SetToZero}
    (hfirst : this.snapshotOfTotalRedistributed.component component ≤ first.component component)
    (hsecond : first.component component ≤ second.component component) :
    let twice := this.share first component +
      (withSnapshot reached this.stake first).share second component
    twice ≤ this.share second component ∧ this.share second component ≤ twice + 1 := by
  have hle := le_def.mp hfirst
  have hle' := le_def.mp hsecond
  obtain ⟨a, ha⟩ := Nat.exists_eq_add_of_le hle
  obtain ⟨b, hb⟩ := Nat.exists_eq_add_of_le hle'
  have hshare : this.share first component =
      ScaledRounding.mulFloor digits this.stake.bigNumber a := by
    rw [share, ha, Nat.add_sub_cancel_left, Nat.mul_comm]
    rfl
  have hshare' : (withSnapshot reached this.stake first).share second component =
      ScaledRounding.mulFloor digits this.stake.bigNumber b := by
    rw [share, withSnapshot, hb, Nat.add_sub_cancel_left, Nat.mul_comm]
    rfl
  have honce : this.share second component =
      ScaledRounding.mulFloor digits this.stake.bigNumber (a + b) := by
    rw [share, hb, ha, Nat.add_assoc, Nat.add_sub_cancel_left, Nat.mul_comm]
    rfl
  rw [hshare, hshare', honce]
  exact ScaledRounding.mulFloor_add_bounds digits_pos a b

/-- The sum of one component over a list of troves, in units. -/
def totalOf (troves : List (Trove constants)) (component : SetToZero) : Nat :=
  (troves.map fun trove => (trove.component component).bigNumber).sum

/-- The shares of a list add up to what its troves gain. -/
theorem totalOf_applyRedistribution {troves : List (TroveWithPendingRedistribution constants)}
    {total : Trove constants} {reached : List (UserTrove constants)}
    (h : troves.mapM (·.applyRedistribution total) = .ok reached) (component : SetToZero) :
    totalOf (reached.map (·.toTrove)) component =
      totalOf (troves.map (·.toTrove)) component +
        (troves.map (·.share total component)).sum := by
  induction troves generalizing reached with
  | nil =>
      cases h
      rfl
  | cons trove rest ih =>
      rw [List.mapM_cons] at h
      obtain ⟨head, hhead, h⟩ := Result.bind_eq_ok.mp h
      obtain ⟨tail, htail, h⟩ := Result.bind_eq_ok.mp h
      cases h
      have hrest := ih htail
      have hshare := share_of_applyRedistribution hhead component
      simp only [totalOf, List.map_cons, List.sum_cons] at hrest ⊢
      omega

/-- The shares of troves with a common snapshot never exceed what their stakes
entitle them to, and fall short by less than one unit for each trove. -/
theorem sum_share_bounds {troves : List (TroveWithPendingRedistribution constants)}
    {snapshot : Trove constants}
    (hsnapshot : ∀ trove ∈ troves, trove.snapshotOfTotalRedistributed = snapshot)
    (total : Trove constants) (component : SetToZero) :
    let shares := (troves.map (·.share total component)).sum
    let entitled := (troves.map (·.stake.bigNumber)).sum *
      ((total.component component).bigNumber - (snapshot.component component).bigNumber)
    shares * digits ≤ entitled ∧ entitled ≤ shares * digits + troves.length * (digits - 1) := by
  have hmap : troves.map (·.share total component) =
      (troves.map (·.stake.bigNumber)).map (ScaledRounding.mulFloor digits
        ((total.component component).bigNumber - (snapshot.component component).bigNumber)) := by
    rw [List.map_map]
    apply List.map_congr_left
    intro trove hmem
    rw [share_eq, hsnapshot trove hmem]
    rfl
  have hbounds := @ScaledRounding.sum_mulFloor_bounds digits
    ((total.component component).bigNumber - (snapshot.component component).bigNumber)
    digits_pos (troves.map (·.stake.bigNumber))
  rw [List.length_map] at hbounds
  simpa only [hmap] using hbounds

/-- What one redistribution does to a trove. -/
structure Shares (this : TroveWithPendingRedistribution constants) (total : Trove constants)
    (reached : UserTrove constants) : Prop where
  applied : this.applyRedistribution total = .ok reached
  adds : ∀ component, (reached.component component).bigNumber =
    (this.component component).bigNumber + this.share total component
  grows : ∀ component, this.component component ≤ reached.component component
  unchanged : (∀ component, total.component component ≤
    this.snapshotOfTotalRedistributed.component component) → reached = this.toUserTrove
  monotone : ∀ total' reached', (∀ component, total.component component ≤
      total'.component component) → this.applyRedistribution total' = .ok reached' →
    ∀ component, reached.component component ≤ reached'.component component

theorem exists_shares (this : TroveWithPendingRedistribution constants) (total : Trove constants) :
    ∃ reached, Shares this total reached := by
  obtain ⟨reached, happly, howner, hstatus, hadds⟩ := this.applyRedistribution_share total
  refine ⟨reached, happly, hadds, ?_, ?_, ?_⟩
  · intro component
    rw [le_def, hadds]
    exact Nat.le_add_right _ _
  · intro hle
    have htrove : reached.toTrove = this.toTrove := by
      apply Trove.ext_component
      intro component
      apply Decimal.ext
      rw [hadds, this.share_of_le (hle component), Nat.add_zero]
    obtain ⟨trove, ownerAddress, status⟩ := reached
    simp only at htrove howner hstatus
    rw [htrove, howner, hstatus]
  · intro total' reached' hle happly' component
    rw [le_def, hadds, share_of_applyRedistribution happly']
    exact Nat.add_le_add_left (this.share_mono (hle component)) _

/-- The shares of a redistribution: what one adds to a trove, what a list of
troves with a common snapshot gains in sum, and how two steps through growing
totals compare with one. -/
theorem redistribution_shares (constants : Constants) :
    (∀ (this : TroveWithPendingRedistribution constants) (total : Trove constants),
      ∃ reached, Shares this total reached) ∧
    (∀ (troves : List (TroveWithPendingRedistribution constants))
      (snapshot total : Trove constants) (reached : List (UserTrove constants)),
      (∀ trove ∈ troves, trove.snapshotOfTotalRedistributed = snapshot) →
      troves.mapM (·.applyRedistribution total) = .ok reached →
      ∀ component, ∃ gained,
        totalOf (reached.map (·.toTrove)) component =
          totalOf (troves.map (·.toTrove)) component + gained ∧
        gained * digits ≤ (troves.map (·.stake.bigNumber)).sum *
          ((total.component component).bigNumber - (snapshot.component component).bigNumber) ∧
        (troves.map (·.stake.bigNumber)).sum *
          ((total.component component).bigNumber - (snapshot.component component).bigNumber) ≤
            gained * digits + troves.length * (digits - 1)) ∧
    ∀ (this : TroveWithPendingRedistribution constants) (first second : Trove constants)
      (halfway twice once : UserTrove constants),
      this.applyRedistribution first = .ok halfway →
      (withSnapshot halfway this.stake first).applyRedistribution second = .ok twice →
      this.applyRedistribution second = .ok once →
      ∀ component,
        this.snapshotOfTotalRedistributed.component component ≤ first.component component →
        first.component component ≤ second.component component →
        twice.component component ≤ once.component component ∧
          (once.component component).bigNumber ≤ (twice.component component).bigNumber + 1 := by
  refine ⟨fun this total => this.exists_shares total, ?_, ?_⟩
  · intro troves snapshot total reached hsnapshot happly component
    have hbounds := sum_share_bounds hsnapshot total component
    exact ⟨_, totalOf_applyRedistribution happly component, hbounds.1, hbounds.2⟩
  · intro this first second halfway twice once hhalfway htwice honce component hfirst hsecond
    have hsteps := this.share_two_steps halfway hfirst hsecond
    have hhalf := share_of_applyRedistribution hhalfway component
    have hreached := share_of_applyRedistribution htwice component
    have hdirect := share_of_applyRedistribution honce component
    have hstart : ((withSnapshot halfway this.stake first).component component).bigNumber =
        (halfway.component component).bigNumber := rfl
    rw [le_def]
    simp only at hsteps
    omega

/-- A trove that stakes one and a half units of a hundred million. -/
def stakedTrove : TroveWithPendingRedistribution defaults :=
  ⟨⟨⟨⟨300000000⟩, ⟨180000000000⟩⟩, "0xa", .open⟩, ⟨150000000⟩, ⟨⟨10⟩, ⟨10⟩⟩⟩

/-- The shares of one step and of two steps through 11 and 12 units. -/
theorem redistribution_shares_staked :
    (∃ reached, Shares stakedTrove ⟨⟨12⟩, ⟨12⟩⟩ reached) ∧
    (∃ gained, @totalOf defaults [⟨⟨300000003⟩, ⟨180000000003⟩⟩] .collateral =
        totalOf [stakedTrove.toTrove] .collateral + gained ∧ gained * digits ≤ 150000000 * 2) ∧
    (⟨300000002⟩ : Decimal) ≤ ⟨300000003⟩ := by
  obtain ⟨hone, hlist, htwo⟩ := redistribution_shares defaults
  refine ⟨hone stakedTrove ⟨⟨12⟩, ⟨12⟩⟩, ?_, ?_⟩
  · obtain ⟨gained, hgained, hle, _⟩ := hlist [stakedTrove] ⟨⟨10⟩, ⟨10⟩⟩ ⟨⟨12⟩, ⟨12⟩⟩
      [⟨⟨⟨300000003⟩, ⟨180000000003⟩⟩, "0xa", .open⟩] (by simp [stakedTrove]) rfl .collateral
    exact ⟨gained, hgained, hle⟩
  · exact (htwo stakedTrove ⟨⟨11⟩, ⟨11⟩⟩ ⟨⟨12⟩, ⟨12⟩⟩
      ⟨⟨⟨300000001⟩, ⟨180000000001⟩⟩, "0xa", .open⟩ ⟨⟨⟨300000002⟩, ⟨180000000002⟩⟩, "0xa", .open⟩
      ⟨⟨⟨300000003⟩, ⟨180000000003⟩⟩, "0xa", .open⟩ rfl rfl rfl .collateral (by decide)
      (by decide)).1

/-- Through totals that fall below the snapshot two steps share what one does not. -/
theorem redistribution_falling_totals :
    ∃ halfway twice once : UserTrove defaults,
      stakedTrove.applyRedistribution Trove.empty = .ok halfway ∧
      (withSnapshot halfway stakedTrove.stake Trove.empty).applyRedistribution ⟨⟨10⟩, ⟨10⟩⟩ =
        .ok twice ∧
      stakedTrove.applyRedistribution ⟨⟨10⟩, ⟨10⟩⟩ = .ok once ∧
      ¬ twice.collateral ≤ once.collateral ∧
      ¬ twice.collateral.bigNumber ≤ once.collateral.bigNumber + 1 :=
  ⟨_, _, _, rfl, rfl, rfl, by decide, by decide⟩

end TroveWithPendingRedistribution

end HLiquity
