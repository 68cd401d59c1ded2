import HLiquity.Library.NewestFirst
import HLiquity.MirrorNode
import Mathlib.Algebra.Order.Floor.Semiring
import Mathlib.Algebra.Order.Ring.Rat
import Mathlib.Data.Rat.Floor
import Mathlib.Tactic.FieldSimp
import Mathlib.Tactic.Linarith
import Mathlib.Tactic.NormNum
import Mathlib.Tactic.Ring

/-!
# The search for a previous state

The state of a trove before a redemption is searched for backwards in windows of seven days,
in the logs of both contracts and under all forms of the borrower's address that are known.
The bounds of the windows belong to none of them, and logs of one time are told apart only by
the query that finds them.
-/

namespace HLiquity

/-- `replace("0x", "")`, which removes the first occurrence. -/
def remove0x : List Char → List Char
  | '0' :: 'x' :: rest => rest
  | c :: rest => c :: remove0x rest
  | [] => []

/-- A long-zero address starts with twelve zero bytes. -/
def isLongZeroAddress (address : String) : Bool :=
  (remove0x address.toLower.toList).take 24 == List.replicate 24 '0'

/-- An address padded to 32 bytes. -/
def addressToTopic1 (address : String) : String :=
  let digits := remove0x address.toLower.toList
  "0x" ++ String.ofList (List.replicate (64 - digits.length) '0' ++ digits)

def hexDigit (c : Char) : Option Nat :=
  if '0' ≤ c ∧ c ≤ '9' then some (c.toNat - '0'.toNat)
  else if 'a' ≤ c ∧ c ≤ 'f' then some (c.toNat - 'a'.toNat + 10)
  else if 'A' ≤ c ∧ c ≤ 'F' then some (c.toNat - 'A'.toNat + 10)
  else none

/-- `BigInt("0x" + digits)`, which throws if these are no hexadecimal digits. -/
def bigIntOfHex (digits : List Char) : Option Nat :=
  if digits = [] then none
  else digits.foldlM (fun value c => (hexDigit c).map (16 * value + ·)) 0

/-- The alias of a long-zero address, if the account has one and the lookup succeeds. -/
def getEcdsaAlias (mirrorNodeClient : MirrorNodeClient) (longZeroAddress : String) :
    Option String :=
  let digits := remove0x longZeroAddress.toList
  match bigIntOfHex (digits.drop (digits.length - 16)) with
  | none => none
  | some accountNum =>
      match mirrorNodeClient.account ("0.0." ++ toString accountNum) with
      | none | some none => none
      | some (some evmAddress) =>
          if evmAddress = "" ∨ evmAddress.toLower = longZeroAddress.toLower then none
          else some evmAddress

/-- An alias does not lead back to its long-zero address. -/
def buildTopic1Variants (mirrorNodeClient : MirrorNodeClient) (borrower : String) :
    List String :=
  if isLongZeroAddress borrower then
    match getEcdsaAlias mirrorNodeClient borrower with
    | none => [addressToTopic1 borrower]
    | some ecdsaAlias => [addressToTopic1 borrower, addressToTopic1 ecdsaAlias]
  else [addressToTopic1 borrower]

/-- `SEVEN_DAYS_IN_SECONDS` -/
def sevenDaysInSeconds : ℚ := 7 * 24 * 60 * 60

/-- `EARLIEST_SEARCH_FLOOR`, January 1, 2024 -/
def earliestSearchFloor : ℚ := 1704067200

/-- A request, unless it is rejected. -/
def fetchLogsForTopic1 (mirrorNodeClient : MirrorNodeClient)
    (contractAddress topic0 topic1 : String) (windowStart windowEnd : ℚ) (limit : Nat) :
    Option (List MirrorLog) :=
  (mirrorNodeClient.logs
    { contractIdOrAddress := contractAddress
      timestamp := [.gt windowStart, .lt windowEnd]
      topic0 := some topic0
      topic1 := some topic1
      limit := some limit
      order := some .desc }).map (·.getD [])

/-- The state that the newest log of a window tells. All queries are made at once, and fail if
one of them is rejected (`none`). -/
def searchWindow (parseLog : ParseLog) (mirrorNodeClient : MirrorNodeClient)
    (contractAddresses : List String) (topic0 : String) (topic1Variants : List String)
    (windowStart windowEnd excludeTimestamp : ℚ) : Option (Option TroveState) := do
  let queries := contractAddresses.flatMap fun addr =>
    topic1Variants.map fun t1 =>
      fetchLogsForTopic1 mirrorNodeClient addr topic0 t1 windowStart windowEnd 2
  let allLogs ← queries.mapM id
  let log := ((allLogs.flatten.filter fun log => log.timestamp != some excludeTimestamp).mergeSort
    fun a b => decide (b.time ≤ a.time)).head?
  return log.bind fun log => (parseTroveLog parseLog log).map ParsedTroveLog.state

theorem sevenDaysInSeconds_pos : 0 < sevenDaysInSeconds := by norm_num [sevenDaysInSeconds]

/-- There is one window less behind the next window. -/
theorem windows_decrease {windowEnd : ℚ} (h : earliestSearchFloor < windowEnd) :
    ⌈(max (windowEnd - sevenDaysInSeconds) earliestSearchFloor - earliestSearchFloor) /
        sevenDaysInSeconds⌉₊ <
      ⌈(windowEnd - earliestSearchFloor) / sevenDaysInSeconds⌉₊ := by
  have hpos : 0 < (windowEnd - earliestSearchFloor) / sevenDaysInSeconds :=
    div_pos (sub_pos.mpr h) sevenDaysInSeconds_pos
  rw [Nat.lt_ceil]
  cases le_total (windowEnd - sevenDaysInSeconds) earliestSearchFloor with
  | inl hlast =>
      rw [max_eq_right hlast, sub_self, zero_div, Nat.ceil_zero, Nat.cast_zero]
      exact hpos
  | inr hmore =>
      have hless : (windowEnd - sevenDaysInSeconds - earliestSearchFloor) / sevenDaysInSeconds =
          (windowEnd - earliestSearchFloor) / sevenDaysInSeconds - 1 := by
        rw [sub_right_comm, sub_div, div_self sevenDaysInSeconds_pos.ne']
      have hnonneg : 0 ≤ (windowEnd - sevenDaysInSeconds - earliestSearchFloor) /
          sevenDaysInSeconds := div_nonneg (sub_nonneg.mpr hmore) sevenDaysInSeconds_pos.le
      rw [max_eq_left hmore]
      have hceil := Nat.ceil_lt_add_one hnonneg
      rw [hless] at hceil ⊢
      rwa [sub_add_cancel] at hceil

/-- The loop of `getPreviousTroveState`. -/
def searchBackwards (parseLog : ParseLog) (mirrorNodeClient : MirrorNodeClient)
    (contractAddresses : List String) (topic0 : String) (topic1Variants : List String)
    (beforeTimestamp windowEnd : ℚ) : Option (Option TroveState) :=
  if earliestSearchFloor < windowEnd then
    let windowStart := max (windowEnd - sevenDaysInSeconds) earliestSearchFloor
    match searchWindow parseLog mirrorNodeClient contractAddresses topic0 topic1Variants
        windowStart windowEnd beforeTimestamp with
    | none => none
    | some (some state) => some (some state)
    | some none =>
        searchBackwards parseLog mirrorNodeClient contractAddresses topic0 topic1Variants
          beforeTimestamp windowStart
  else some none
termination_by ⌈(windowEnd - earliestSearchFloor) / sevenDaysInSeconds⌉₊
decreasing_by exact windows_decrease ‹_›

/-- A search that fails finds nothing. -/
def getPreviousTroveState (parseLog : ParseLog) (topic0 : String)
    (mirrorNodeClient : MirrorNodeClient) (borrower : String) (beforeTimestamp : ℚ)
    (contractAddresses : List String) : Option TroveState :=
  let topic1Variants := buildTopic1Variants mirrorNodeClient borrower
  (searchBackwards parseLog mirrorNodeClient contractAddresses topic0 topic1Variants
    beforeTimestamp beforeTimestamp).getD none

/-- A query of a contract for a form of the address. -/
abbrev TopicQuery : Type := String × String

/-- The queries of a window, in the order in which their results are put together. -/
def topicQueries (contractAddresses topic1Variants : List String) : List TopicQuery :=
  contractAddresses.flatMap fun addr => topic1Variants.map fun t1 => (addr, t1)

/-- A query finds a log if it looks at its time. -/
def LogPosition.answers (topic0 : String) (position : LogPosition) (query : TopicQuery) : Bool :=
  position.address == query.1 && position.topic 0 == some topic0 &&
    position.topic 1 == some query.2

/-- A time that is whole weeks before another one. -/
def OnWindowBound (windowEnd time : ℚ) : Prop :=
  ∃ weeks : ℤ, windowEnd - time = weeks * sevenDaysInSeconds

theorem onWindowBound_iff (windowEnd time : ℚ) :
    OnWindowBound windowEnd time ↔ ((windowEnd - time) / sevenDaysInSeconds).den = 1 := by
  rw [Rat.den_eq_one_iff]
  constructor
  · rintro ⟨weeks, hweeks⟩
    rw [hweeks, mul_div_cancel_right₀ _ sevenDaysInSeconds_pos.ne']
    rfl
  · intro hweeks
    refine ⟨((windowEnd - time) / sevenDaysInSeconds).num, ?_⟩
    rw [hweeks, div_mul_cancel₀ _ sevenDaysInSeconds_pos.ne']

instance (windowEnd time : ℚ) : Decidable (OnWindowBound windowEnd time) :=
  decidable_of_iff _ (onWindowBound_iff windowEnd time).symm

def LogPosition.InWindow (windowStart windowEnd : ℚ) (position : LogPosition) : Prop :=
  windowStart < position.time ∧ position.time < windowEnd

/-- Some window that ends at a time or before it contains a log. -/
def LogPosition.Visible (windowEnd : ℚ) (position : LogPosition) : Prop :=
  position.InWindow earliestSearchFloor windowEnd ∧ ¬ OnWindowBound windowEnd position.time

instance (windowStart windowEnd : ℚ) (position : LogPosition) :
    Decidable (position.InWindow windowStart windowEnd) :=
  inferInstanceAs (Decidable (_ ∧ _))

instance (windowEnd : ℚ) (position : LogPosition) : Decidable (position.Visible windowEnd) :=
  inferInstanceAs (Decidable (_ ∧ _))

section Windows

variable {windowEnd time : ℚ} {position : LogPosition}

/-- The start of the window that ends at a time. -/
def windowStartOf (windowEnd : ℚ) : ℚ := max (windowEnd - sevenDaysInSeconds) earliestSearchFloor

theorem onWindowBound_sub_iff :
    OnWindowBound (windowEnd - sevenDaysInSeconds) time ↔ OnWindowBound windowEnd time := by
  constructor
  · rintro ⟨weeks, hweeks⟩
    refine ⟨weeks + 1, ?_⟩
    push_cast
    linarith
  · rintro ⟨weeks, hweeks⟩
    refine ⟨weeks - 1, ?_⟩
    push_cast
    linarith

/-- Less than a week apart is not whole weeks apart. -/
theorem not_onWindowBound (hlt : time < windowEnd) (hmore : windowEnd - sevenDaysInSeconds < time) :
    ¬ OnWindowBound windowEnd time := by
  rintro ⟨weeks, hweeks⟩
  have hpos : (0 : ℚ) < weeks * sevenDaysInSeconds := by
    rw [← hweeks]
    exact sub_pos.mpr hlt
  have hless : weeks * sevenDaysInSeconds < 1 * sevenDaysInSeconds := by linarith
  have hzero : (0 : ℚ) < weeks := (mul_pos_iff_of_pos_right sevenDaysInSeconds_pos).mp hpos
  have hone : (weeks : ℚ) < 1 := lt_of_mul_lt_mul_right hless sevenDaysInSeconds_pos.le
  have hlow : 0 < weeks := by exact_mod_cast hzero
  have hhigh : weeks < 1 := by exact_mod_cast hone
  omega

/-- A window shows what lies in it, and the windows behind it show the rest. -/
theorem visible_iff :
    position.Visible windowEnd ↔
      position.InWindow (windowStartOf windowEnd) windowEnd ∨
        position.Visible (windowStartOf windowEnd) := by
  have hweek := sevenDaysInSeconds_pos
  cases le_total (windowEnd - sevenDaysInSeconds) earliestSearchFloor with
  | inl hlast =>
      -- the last window goes back to the floor
      rw [windowStartOf, max_eq_right hlast]
      constructor
      · exact fun hvisible => .inl hvisible.1
      · rintro (hwindow | ⟨⟨hlow, hhigh⟩, _⟩)
        · exact ⟨hwindow, not_onWindowBound hwindow.2 (hlast.trans_lt hwindow.1)⟩
        · exact absurd (hlow.trans hhigh) (lt_irrefl _)
  | inr hmore =>
      rw [windowStartOf, max_eq_left hmore]
      constructor
      · rintro ⟨⟨hlow, hhigh⟩, hbound⟩
        rcases lt_trichotomy position.time (windowEnd - sevenDaysInSeconds) with hlt | heq | hgt
        · exact .inr ⟨⟨hlow, hlt⟩, fun h => hbound (onWindowBound_sub_iff.mp h)⟩
        · exact absurd ⟨1, by rw [heq]; push_cast; ring⟩ hbound
        · exact .inl ⟨hgt, hhigh⟩
      · rintro (⟨hlow, hhigh⟩ | ⟨⟨hlow, hhigh⟩, hbound⟩)
        · exact ⟨⟨hmore.trans_lt hlow, hhigh⟩, not_onWindowBound hhigh hlow⟩
        · refine ⟨⟨hlow, ?_⟩, fun h => hbound (onWindowBound_sub_iff.mpr h)⟩
          linarith

end Windows

/-- What the queries find, each with the newest first, one after the other. -/
def foundBy {α : Type} (position : α → LogPosition) (topic0 : String)
    (queries : List TopicQuery) (chain : List α) : List α :=
  queries.flatMap fun query =>
    (chain.filter fun log => (position log).answers topic0 query).reverse

/-- Those of the logs found that some window until a time shows. -/
def visibleLogs {α : Type} (position : α → LogPosition) (topic0 : String)
    (queries : List TopicQuery) (beforeTimestamp : ℚ) (chain : List α) : List α :=
  (foundBy position topic0 queries chain).filter fun log =>
    decide ((position log).Visible beforeTimestamp)

/-- A chain holds its logs in the order of their times. -/
def InOrder {α : Type} (position : α → LogPosition) (chain : List α) : Prop :=
  chain.Pairwise fun log later => (position log).time ≤ (position later).time

/-- The state that a log tells. -/
def stateOf (parseLog : ParseLog) (log : MirrorLog) : Option TroveState :=
  (parseTroveLog parseLog log).map ParsedTroveLog.state

section Search

variable {parseLog : ParseLog} {topic0 : String} {account : String → Option (Option String)}
  {contractAddresses topic1Variants : List String} {chain : List MirrorLog}
  {windowStart windowEnd beforeTimestamp : ℚ}

theorem fetchLogsForTopic1_eq (query : TopicQuery) :
    fetchLogsForTopic1 (mirrorNode account chain) query.1 topic0 query.2 windowStart windowEnd 2 =
      some ((((chain.filter fun log => log.answers topic0 query).reverse).filter fun log =>
        decide (log.InWindow windowStart windowEnd)).take 2) := by
  rw [List.filter_reverse, List.filter_filter]
  simp only [fetchLogsForTopic1, mirrorNode, Option.map_some, Option.getD_some,
    Option.some.injEq, reduceCtorEq, if_false]
  congr 2
  apply List.filter_congr
  intro log _
  rw [Bool.eq_iff_iff]
  simp only [LogQuery.selects, LogPosition.answers, TimestampFilter.holds, List.all_cons,
    List.all_nil, Option.all_some, Bool.and_eq_true, Bool.and_true, decide_eq_true_iff,
    beq_iff_eq]
  rw [LogPosition.InWindow]
  tauto

theorem mapM_some {β γ : Type} (f : β → γ) (l : List β) :
    (l.map fun b => some (f b)).mapM id = some (l.map f) := by
  induction l with
  | nil => rfl
  | cons b l ih =>
      rw [List.map_cons, List.mapM_cons, ih]
      rfl

/-- Of each query the newest log of the window is fetched, so that the search finds the newest of
all. -/
theorem searchWindow_eq (horder : InOrder MirrorLog.toLogPosition chain)
    (hend : windowEnd ≤ beforeTimestamp) :
    searchWindow parseLog (mirrorNode account chain) contractAddresses topic0 topic1Variants
        windowStart windowEnd beforeTimestamp =
      some ((NewestFirst.newest (fun log : MirrorLog => log.time)
        ((foundBy MirrorLog.toLogPosition topic0
          (topicQueries contractAddresses topic1Variants) chain).filter fun log =>
            decide (log.InWindow windowStart windowEnd))).bind (stateOf parseLog)) := by
  let fetched (query : TopicQuery) : List MirrorLog :=
    ((chain.filter fun log => log.answers topic0 query).reverse).filter fun log =>
      decide (log.InWindow windowStart windowEnd)
  have hqueries : (contractAddresses.flatMap fun addr => topic1Variants.map fun t1 =>
        fetchLogsForTopic1 (mirrorNode account chain) addr topic0 t1 windowStart windowEnd 2) =
      (topicQueries contractAddresses topic1Variants).map fun query =>
        some ((fetched query).take 2) := by
    rw [topicQueries, List.map_flatMap]
    apply List.flatMap_congr
    intro addr _
    rw [List.map_map]
    apply List.map_congr_left
    intro t1 _
    exact fetchLogsForTopic1_eq (addr, t1)
  -- no log of the window has the time of the redemption
  have hother : ∀ log ∈ ((topicQueries contractAddresses topic1Variants).map fun query =>
      (fetched query).take 2).flatten, (log.timestamp != some beforeTimestamp) = true := by
    intro log hlog
    rw [← List.flatMap_def, List.mem_flatMap] at hlog
    obtain ⟨query, _, hmem⟩ := hlog
    have hwindow := of_decide_eq_true (List.mem_filter.mp (List.mem_of_mem_take hmem)).2
    rw [bne_iff_ne]
    intro htimestamp
    have htime : log.time = beforeTimestamp := by
      rw [LogPosition.time, htimestamp, Option.getD_some]
    exact absurd (htime ▸ hwindow.2) (not_lt.mpr hend)
  have hnewest : NewestFirst.newest (fun log : MirrorLog => log.time)
        ((topicQueries contractAddresses topic1Variants).map fun query =>
          (fetched query).take 2).flatten =
      NewestFirst.newest (fun log : MirrorLog => log.time)
        ((foundBy MirrorLog.toLogPosition topic0
          (topicQueries contractAddresses topic1Variants) chain).filter fun log =>
            decide (log.InWindow windowStart windowEnd)) := by
    rw [← List.flatMap_def, foundBy, List.filter_flatMap]
    apply NewestFirst.newest_flatMap_congr
    intro query _
    apply NewestFirst.newest_take
    apply List.Pairwise.filter
    rw [List.pairwise_reverse]
    exact horder.filter _
  rw [searchWindow, hqueries, mapM_some]
  simp only [Option.bind_eq_bind, Option.bind_some, Option.pure_def]
  rw [List.filter_eq_self.mpr hother, NewestFirst.head?_mergeSort, hnewest]
  rfl

/-- A window decides, and only if it shows nothing the windows behind it do. -/
theorem newest_visible (found : List MirrorLog) :
    NewestFirst.newest (fun log : MirrorLog => log.time)
        (found.filter fun log => decide (log.Visible windowEnd)) =
      (NewestFirst.newest (fun log : MirrorLog => log.time)
        (found.filter fun log => decide (log.InWindow (windowStartOf windowEnd) windowEnd))).or
          (NewestFirst.newest (fun log : MirrorLog => log.time)
            (found.filter fun log => decide (log.Visible (windowStartOf windowEnd)))) := by
  apply NewestFirst.newest_filter_or
  · intro log _
    rw [Bool.eq_iff_iff, Bool.or_eq_true, decide_eq_true_iff, decide_eq_true_iff,
      decide_eq_true_iff, visible_iff]
  · intro log _ earlier _ hlate hearly
    exact (of_decide_eq_true hearly).1.2.trans (of_decide_eq_true hlate).1

theorem windowStartOf_le (h : earliestSearchFloor < windowEnd) :
    windowStartOf windowEnd ≤ windowEnd :=
  max_le (sub_le_self _ sevenDaysInSeconds_pos.le) h.le

/-- One turn of the loop. -/
theorem searchBackwards_of_lt (mirrorNodeClient : MirrorNodeClient)
    (h : earliestSearchFloor < windowEnd) :
    searchBackwards parseLog mirrorNodeClient contractAddresses topic0 topic1Variants
        beforeTimestamp windowEnd =
      (searchWindow parseLog mirrorNodeClient contractAddresses topic0 topic1Variants
        (windowStartOf windowEnd) windowEnd beforeTimestamp).bind fun state =>
          if state.isSome then some state
          else searchBackwards parseLog mirrorNodeClient contractAddresses topic0 topic1Variants
            beforeTimestamp (windowStartOf windowEnd) := by
  rw [searchBackwards, if_pos h]
  change (match searchWindow parseLog mirrorNodeClient contractAddresses topic0 topic1Variants
      (windowStartOf windowEnd) windowEnd beforeTimestamp with
    | none => none
    | some (some state) => some (some state)
    | some none => searchBackwards parseLog mirrorNodeClient contractAddresses topic0 topic1Variants
        beforeTimestamp (windowStartOf windowEnd)) = _
  cases searchWindow parseLog mirrorNodeClient contractAddresses topic0 topic1Variants
      (windowStartOf windowEnd) windowEnd beforeTimestamp with
  | none => rfl
  | some state => cases state <;> rfl

/-- The windows together find the newest visible log, if all that is found is parsed. -/
theorem searchBackwards_eq (horder : InOrder MirrorLog.toLogPosition chain)
    (hparsed : ∀ log ∈ foundBy MirrorLog.toLogPosition topic0
      (topicQueries contractAddresses topic1Variants) chain, (stateOf parseLog log).isSome)
    (hend : windowEnd ≤ beforeTimestamp) :
    searchBackwards parseLog (mirrorNode account chain) contractAddresses topic0 topic1Variants
        beforeTimestamp windowEnd =
      some ((NewestFirst.newest (fun log : MirrorLog => log.time)
        (visibleLogs MirrorLog.toLogPosition topic0
          (topicQueries contractAddresses topic1Variants) windowEnd chain)).bind
            (stateOf parseLog)) := by
  unfold visibleLogs
  induction windowEnd using searchBackwards.induct parseLog (mirrorNode account chain)
    contractAddresses topic0 topic1Variants beforeTimestamp with
  | case1 windowEnd hmore windowStart hrejected =>
      rw [searchWindow_eq horder hend] at hrejected
      cases hrejected
  | case2 windowEnd hmore windowStart state hfound =>
      have hwindow := hfound
      rw [searchWindow_eq horder hend, Option.some_inj, Option.bind_eq_some_iff] at hwindow
      obtain ⟨log, hnewest, hstate⟩ := hwindow
      change NewestFirst.newest _ (List.filter (fun log =>
        decide (log.InWindow (windowStartOf windowEnd) windowEnd)) _) = some log at hnewest
      rw [searchBackwards_of_lt _ hmore, newest_visible, hnewest, Option.some_or, Option.bind_some,
        hstate]
      exact Option.bind_eq_some_iff.mpr ⟨some state, hfound, rfl⟩
  | case3 windowEnd hmore windowStart hnone ih =>
      have hwindow := hnone
      rw [searchWindow_eq horder hend, Option.some_inj, Option.bind_eq_none_iff] at hwindow
      have hempty : NewestFirst.newest (fun log : MirrorLog => log.time)
          ((foundBy MirrorLog.toLogPosition topic0
            (topicQueries contractAddresses topic1Variants) chain).filter fun log =>
              decide (log.InWindow (windowStartOf windowEnd) windowEnd)) = none := by
        rw [Option.eq_none_iff_forall_ne_some]
        intro log hnewest
        have hfound := (List.mem_filter.mp (NewestFirst.newest_spec _ hnewest).1).1
        have hstate := hparsed log hfound
        rw [hwindow log hnewest] at hstate
        cases hstate
      rw [searchBackwards_of_lt _ hmore, newest_visible, hempty, Option.none_or]
      refine Option.bind_eq_some_iff.mpr ⟨none, hnone, ?_⟩
      exact ih ((windowStartOf_le hmore).trans hend)
  | case4 windowEnd hdone =>
      have hempty : ((foundBy MirrorLog.toLogPosition topic0
          (topicQueries contractAddresses topic1Variants) chain).filter fun log =>
            decide (log.Visible windowEnd)) = [] := by
        rw [List.filter_eq_nil_iff]
        intro log _ hvisible
        obtain ⟨hlow, hhigh⟩ := (of_decide_eq_true hvisible).1
        exact hdone (hlow.trans hhigh)
      rw [searchBackwards, if_neg hdone, hempty]
      rfl

/-- The search finds what the newest visible log of all that the queries find tells. -/
theorem getPreviousTroveState_eq {borrower : String}
    (horder : InOrder MirrorLog.toLogPosition chain)
    (hparsed : ∀ log ∈ foundBy MirrorLog.toLogPosition topic0
      (topicQueries contractAddresses (buildTopic1Variants (mirrorNode account []) borrower)) chain,
        (stateOf parseLog log).isSome) :
    getPreviousTroveState parseLog topic0 (mirrorNode account chain) borrower beforeTimestamp
        contractAddresses =
      (NewestFirst.newest (fun log : MirrorLog => log.time)
        (visibleLogs MirrorLog.toLogPosition topic0
          (topicQueries contractAddresses (buildTopic1Variants (mirrorNode account []) borrower))
            beforeTimestamp chain)).bind (stateOf parseLog) := by
  have hvariants : buildTopic1Variants (mirrorNode account chain) borrower =
      buildTopic1Variants (mirrorNode account []) borrower := rfl
  simp only [getPreviousTroveState, hvariants]
  rw [searchBackwards_eq horder hparsed le_rfl, Option.getD_some]

end Search

end HLiquity
