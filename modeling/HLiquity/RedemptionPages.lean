import HLiquity.DecimalValue
import HLiquity.Library.CursorPages
import HLiquity.MirrorNode
import HLiquity.NumberText

/-!
# The pages of redemptions

The page of redemptions asks the mirror node for the results of the trove manager at or before
a timestamp, which it takes from its own location or else from the clock. The link to the next
page carries the timestamp of the mirror node's own link without its operator, and the
next page asks for the results at or before that timestamp again.
-/

namespace HLiquity

/-- An address, with the parameters of its query decoded. -/
structure Href where
  pathname : Text
  searchParams : List (Text × Text)
  hash : Text
  deriving DecidableEq, Repr

namespace Href

/-- `searchParams.get` -/
def get (href : Href) (name : Text) : Option Text :=
  (href.searchParams.find? fun param => param.1 == name).map Prod.snd

/-- `searchParams.set` overwrites the first parameter of a name and removes the others. -/
def set (href : Href) (name value : Text) : Href :=
  { href with
    searchParams :=
      href.searchParams.takeWhile (fun param => param.1 != name) ++ (name, value) ::
        (href.searchParams.dropWhile fun param => param.1 != name).filter
          fun param => param.1 != name }

/-- `searchParams.delete` -/
def delete (href : Href) (name : Text) : Href :=
  { href with searchParams := href.searchParams.filter fun param => param.1 != name }

@[simp] theorem get_set (href : Href) (name value : Text) :
    (href.set name value).get name = some value := by
  have hbefore : (href.searchParams.takeWhile fun param => param.1 != name).find?
      (fun param => param.1 == name) = none := by
    rw [List.find?_eq_none]
    intro param hparam
    simpa using List.mem_takeWhile_imp hparam
  simp [get, set, List.find?_append, hbefore]

end Href

/-- `\w` -/
def isWordCharacter (c : Char) : Bool := c.isAlphanum || c == '_'

/-- `replace(/^\w+:/g, "")` -/
def withoutOperator (text : Text) : Text :=
  match text.takeWhile isWordCharacter, text.dropWhile isWordCharacter with
  | _ :: _, ':' :: rest => rest
  | _, _ => text

/-- The characters that `parseFloat` skips before a number. -/
def isStrWhiteSpace (c : Char) : Bool :=
  [9, 10, 11, 12, 13, 32, 160, 5760, 8232, 8233, 8239, 8287, 12288, 65279].contains c.toNat ||
    (8192 ≤ c.toNat && c.toNat ≤ 8202)

def withoutSign : Text → Text
  | '+' :: rest => rest
  | '-' :: rest => rest
  | rest => rest

/-- `!isNaN(parseFloat(text))` -/
def parsesAsNumber (text : Text) : Bool :=
  match withoutSign (text.dropWhile isStrWhiteSpace) with
  | '.' :: fraction => fraction.head?.any Char.isDigit
  | unsigned => unsigned.head?.any Char.isDigit || "Infinity".toList.isPrefixOf unsigned

/-- `"timestamp"` -/
def timestampName : Text := "timestamp".toList

def getTimestampFromHref (href : Href) : Option Text :=
  match href.get timestampName with
  | none => none
  | some [] => none
  | some timestampParam =>
      let timestampString := withoutOperator timestampParam
      if parsesAsNumber timestampString then some timestampString else none

/-- A result of a contract. -/
structure ContractResult where
  timestamp : Option Text
  functionParameters : Option Text
  «from» : Option Text
  deriving DecidableEq, Repr

def redeemCollateralSelector : Text := "bcd37526".toList

def redeemCollateralFunctionParametersStart : Text := "0x".toList ++ redeemCollateralSelector

/-- Whether the page shows a result, if it finds the details of it. -/
def isRedeemCollateral (result : ContractResult) : Bool :=
  result.timestamp.any (· ≠ []) &&
    result.functionParameters.any redeemCollateralFunctionParametersStart.isPrefixOf

/-- `GET /api/v1/contracts/\x7bcontractIdOrAddress\x7d/results` -/
structure ResultsQuery where
  contractIdOrAddress : String
  timestamp : List Text
  order : Option LogOrder
  deriving DecidableEq

/-- A response: the message of its error, its `data.results` and its `data.links.next`. -/
structure ResultsResponse where
  error : Option (Option Text)
  results : Option (List ContractResult)
  next : Option Href
  deriving DecidableEq

/-- The query for the results of a page. -/
def resultsQuery (troveManager : String) (timestamp : Text) : ResultsQuery where
  contractIdOrAddress := troveManager
  timestamp := ["lte:".toList ++ timestamp]
  order := none

/-- The link to the next page. -/
def nextLink (location : Href) (next : Option Href) : Option Href :=
  (next.bind getTimestampFromHref).map (location.set timestampName)

/-- A load of the page: where, and how many pages were loaded before. -/
structure PageVisit where
  location : Href
  loads : Nat
  deriving DecidableEq

section Visits

variable (getResults : ResultsQuery → ResultsResponse) (troveManager : String)
  (clock : Nat → Text)

/-- `urlTimestamp ?? Date.now() / 1000`, where the clock says what each load reads. -/
def PageVisit.timestamp (visit : PageVisit) : Text :=
  (getTimestampFromHref visit.location).getD (clock visit.loads)

def PageVisit.response (visit : PageVisit) : ResultsResponse :=
  getResults (resultsQuery troveManager (visit.timestamp clock))

/-- The results on a page. -/
def PageVisit.results (visit : PageVisit) : List ContractResult :=
  (visit.response getResults troveManager clock).results.getD []

/-- A click on the link to the next page. -/
def PageVisit.next (visit : PageVisit) : Option PageVisit :=
  let response := visit.response getResults troveManager clock
  match response.results with
  | none => none
  | some _ =>
      (nextLink visit.location response.next).map fun location => ⟨location, visit.loads + 1⟩

/-- The pages from a visit on. -/
abbrev Pages : PageVisit → List (List ContractResult) → Prop :=
  CursorPages.Walk (PageVisit.results getResults troveManager clock)
    (PageVisit.next getResults troveManager clock)

end Visits

/-- Seconds with an optional fraction. -/
def IsTimestamp (text : Text) : Prop :=
  ∃ seconds fraction, Decimal.IsCoefficient text seconds fraction ∧ seconds ≠ []

def ContractResult.time (result : ContractResult) : ℚ :=
  Decimal.coefficientValue (result.timestamp.getD [])

/-- All results of the contract, newest first, at different times. -/
structure History where
  results : List ContractResult
  timestamped : ∀ result ∈ results, ∃ timestamp,
    result.timestamp = some timestamp ∧ IsTimestamp timestamp
  newestFirst : results.Pairwise fun newer older => older.time < newer.time

/-- The results at or before a timestamp. -/
abbrev History.upTo (history : History) (timestamp : Text) : List ContractResult :=
  CursorPages.upTo ContractResult.time history.results (Decimal.coefficientValue timestamp)

/-- The mirror node answers the query of a page with the newest results that satisfy it, a
page of them at most, and links to those before the last of them when more remain. -/
structure ServesPages (getResults : ResultsQuery → ResultsResponse) (troveManager : String)
    (history : History) (pageSize : Nat) : Prop where
  page : ∀ timestamp, IsTimestamp timestamp → ∃ results,
    (getResults (resultsQuery troveManager timestamp)).results = some results ∧
      results <+: history.upTo timestamp ∧ results.length ≤ pageSize
  more : ∀ timestamp, IsTimestamp timestamp →
    (getResults (resultsQuery troveManager timestamp)).results ≠ some (history.upTo timestamp) →
      (getResults (resultsQuery troveManager timestamp)).next ≠ none
  link : ∀ timestamp results href, IsTimestamp timestamp →
    (getResults (resultsQuery troveManager timestamp)).results = some results →
      (getResults (resultsQuery troveManager timestamp)).next = some href →
        ∃ result lastTimestamp, results.getLast? = some result ∧
          result.timestamp = some lastTimestamp ∧
            href.get timestampName = some ("lt:".toList ++ lastTimestamp)

/-- The pages from a visit on end and list every result at or before the start exactly once. -/
structure PartitionsHistory (getResults : ResultsQuery → ResultsResponse)
    (troveManager : String) (clock : Nat → Text) (history : History) (start : PageVisit) :
    Prop where
  ends : ∃ pages, Pages getResults troveManager clock start pages
  once : ∀ pages, Pages getResults troveManager clock start pages →
    ∀ result ∈ history.upTo (start.timestamp clock), pages.flatten.count result = 1

theorem isStrWhiteSpace_digit {c : Char} (h : c.isDigit = true) : isStrWhiteSpace c = false := by
  have hrange : 48 ≤ c.toNat ∧ c.toNat ≤ 57 := by
    simpa [Char.isDigit, UInt32.le_iff_toNat_le] using h
  simp [isStrWhiteSpace]
  omega

/-- A timestamp starts with a digit. -/
theorem IsTimestamp.exists_digit {text : Text} (h : IsTimestamp text) :
    ∃ c rest, text = c :: rest ∧ c.isDigit = true := by
  obtain ⟨seconds, fraction, hcoefficient, hne⟩ := h
  obtain ⟨c, rest, rfl⟩ := List.exists_cons_of_ne_nil hne
  cases hcoefficient with
  | whole hdigits => exact ⟨c, rest, rfl, hdigits c List.mem_cons_self⟩
  | fraction hdigits _ => exact ⟨c, rest ++ '.' :: fraction, rfl, hdigits c List.mem_cons_self⟩

theorem IsTimestamp.colon_not_mem {text : Text} (h : IsTimestamp text) : ':' ∉ text := by
  obtain ⟨seconds, fraction, hcoefficient, -⟩ := h
  cases hcoefficient with
  | whole hdigits => exact hdigits.not_mem rfl
  | fraction hdigits hfraction =>
      simp [hdigits.not_mem (c := ':') rfl, hfraction.not_mem (c := ':') rfl]

theorem withoutSign_digit {c : Char} (h : c.isDigit = true) (rest : Text) :
    withoutSign (c :: rest) = c :: rest := by
  unfold withoutSign
  split
  · next heq => cases heq; cases h
  · next heq => cases heq; cases h
  · rfl

theorem IsTimestamp.parsesAsNumber {text : Text} (h : IsTimestamp text) :
    parsesAsNumber text = true := by
  obtain ⟨c, rest, rfl, hdigit⟩ := h.exists_digit
  have hspace : (c :: rest).dropWhile isStrWhiteSpace = c :: rest := by
    simp [isStrWhiteSpace_digit hdigit]
  rw [HLiquity.parsesAsNumber, hspace, withoutSign_digit hdigit]
  split
  · next heq => cases heq; cases hdigit
  · simp [hdigit]

theorem withoutOperator_of_not_mem {text : Text} (h : ':' ∉ text) :
    withoutOperator text = text := by
  unfold withoutOperator
  split
  · next rest _ hrest =>
      have hmem : ':' ∈ text.dropWhile isWordCharacter := hrest ▸ List.mem_cons_self
      exact absurd ((List.dropWhile_sublist _).subset hmem) h
  · rfl

theorem withoutOperator_lt (text : Text) : withoutOperator ("lt:".toList ++ text) = text := rfl

/-- A parameter that is a timestamp once its operator is gone is read as that timestamp. -/
theorem getTimestampFromHref_of_get {href : Href} {param timestamp : Text}
    (hparam : href.get timestampName = some param) (hoperator : withoutOperator param = timestamp)
    (h : IsTimestamp timestamp) : getTimestampFromHref href = some timestamp := by
  have hne : param ≠ [] := by
    rintro rfl
    obtain ⟨c, rest, rfl, -⟩ := h.exists_digit
    cases hoperator
  obtain ⟨c, rest, rfl⟩ := List.exists_cons_of_ne_nil hne
  simp [getTimestampFromHref, hparam, hoperator, h.parsesAsNumber]

/-- The link to the next page carries the timestamp of the mirror node's link, and the next
page reads that timestamp. -/
theorem nextLink_of_lt {href : Href} {timestamp : Text} (h : IsTimestamp timestamp)
    (hget : href.get timestampName = some ("lt:".toList ++ timestamp)) (location : Href) :
    nextLink location (some href) = some (location.set timestampName timestamp) ∧
      getTimestampFromHref (location.set timestampName timestamp) = some timestamp := by
  constructor
  · simp [nextLink, getTimestampFromHref_of_get hget (withoutOperator_lt timestamp) h]
  · exact getTimestampFromHref_of_get (Href.get_set location timestampName timestamp)
      (withoutOperator_of_not_mem h.colon_not_mem) h

section Serves

variable {getResults : ResultsQuery → ResultsResponse} {troveManager : String}
  {clock : Nat → Text} {history : History} {pageSize : Nat}

/-- A page without a link of the mirror node is the last one and lists what is left. -/
theorem visit_of_none (hserves : ServesPages getResults troveManager history pageSize)
    {visit : PageVisit} (h : IsTimestamp (visit.timestamp clock))
    (hnone : (visit.response getResults troveManager clock).next = none) :
    visit.next getResults troveManager clock = none ∧
      visit.results getResults troveManager clock = history.upTo (visit.timestamp clock) := by
  have hresults : (visit.response getResults troveManager clock).results =
      some (history.upTo (visit.timestamp clock)) := by
    by_contra hleft
    exact hserves.more _ h hleft hnone
  constructor
  · simp [PageVisit.next, hresults, hnone, nextLink]
  · simp [PageVisit.results, hresults]

/-- After a link of the mirror node the next page starts at the last result of this one. -/
theorem visit_of_some (hserves : ServesPages getResults troveManager history pageSize)
    {visit : PageVisit} (h : IsTimestamp (visit.timestamp clock)) {href : Href}
    (hsome : (visit.response getResults troveManager clock).next = some href) :
    ∃ later result timestamp, visit.next getResults troveManager clock = some later ∧
      (visit.results getResults troveManager clock).getLast? = some result ∧
        result.timestamp = some timestamp ∧ IsTimestamp timestamp ∧
          later.timestamp clock = timestamp := by
  obtain ⟨results, hresults, hprefix, -⟩ := hserves.page _ h
  obtain ⟨result, timestamp, hlast, htimestamp, hget⟩ :=
    hserves.link _ results href h hresults hsome
  have hmem : result ∈ history.results := by
    have hup := hprefix.subset (List.mem_of_getLast? hlast)
    exact ((CursorPages.mem_upTo _ _).mp hup).1
  obtain ⟨timestamp', htimestamp', hwell⟩ := history.timestamped result hmem
  obtain rfl : timestamp = timestamp' := Option.some.inj (htimestamp.symm.trans htimestamp')
  obtain ⟨hlink, hread⟩ := nextLink_of_lt hwell hget visit.location
  change (visit.response getResults troveManager clock).results = some results at hresults
  refine ⟨⟨visit.location.set timestampName timestamp, visit.loads + 1⟩, result, timestamp,
    ?_, ?_, htimestamp, hwell, ?_⟩
  · simp [PageVisit.next, hresults, hsome, hlink]
  · simpa [PageVisit.results, hresults] using hlast
  · simp [PageVisit.timestamp, hread]

theorem next_eq_none_iff (hserves : ServesPages getResults troveManager history pageSize)
    {visit : PageVisit} (h : IsTimestamp (visit.timestamp clock)) :
    visit.next getResults troveManager clock = none ↔
      (visit.response getResults troveManager clock).next = none := by
  cases hnext : (visit.response getResults troveManager clock).next with
  | none => exact iff_of_true (visit_of_none hserves h hnext).1 rfl
  | some href =>
      obtain ⟨later, -, -, hlater, -⟩ := visit_of_some hserves h hnext
      simp [hlater]

/-- The pages are pages of the history behind an inclusive cursor. -/
theorem ServesPages.inclusive (hserves : ServesPages getResults troveManager history pageSize)
    (clock : Nat → Text) :
    CursorPages.Inclusive ContractResult.time history.results
      (PageVisit.results getResults troveManager clock)
      (PageVisit.next getResults troveManager clock)
      (fun visit => IsTimestamp (visit.timestamp clock))
      (fun visit => Decimal.coefficientValue (visit.timestamp clock)) where
  isPrefix visit h := by
    obtain ⟨results, hresults, hprefix, -⟩ := hserves.page _ h
    simpa [PageVisit.results, PageVisit.response, hresults] using hprefix
  whole visit h hnext :=
    (visit_of_none hserves h ((next_eq_none_iff hserves h).mp hnext)).2
  linked visit later h hnext := by
    cases hsome : (visit.response getResults troveManager clock).next with
    | none => rw [(visit_of_none hserves h hsome).1] at hnext; cases hnext
    | some href =>
        obtain ⟨later', result, timestamp, hlater, hlast, htimestamp, hwell, hread⟩ :=
          visit_of_some hserves h hsome
        obtain rfl : later = later' := Option.some.inj (hnext.symm.trans hlater)
        refine ⟨hread ▸ hwell, result, hlast, ?_⟩
        simp [ContractResult.time, htimestamp, hread]

/-- The pages leave out no result at or before the start, and list no other one. They end if
every page with a next one lists two results or more. -/
theorem pages_cover (hserves : ServesPages getResults troveManager history pageSize)
    {start : PageVisit} (h : IsTimestamp (start.timestamp clock)) :
    (∀ pages, Pages getResults troveManager clock start pages → ∀ result,
      result ∈ pages.flatten ↔ result ∈ history.upTo (start.timestamp clock)) ∧
    ((∀ visit later : PageVisit, IsTimestamp (visit.timestamp clock) →
      visit.next getResults troveManager clock = some later →
        2 ≤ (visit.results getResults troveManager clock).length) →
          ∃ pages, Pages getResults troveManager clock start pages) := by
  have hinclusive := hserves.inclusive clock
  constructor
  · intro pages hwalk result
    exact ⟨hinclusive.walk_only hwalk h result,
      hinclusive.walk_covers history.newestFirst hwalk h result⟩
  · intro htwo
    exact hinclusive.exists_walk history.newestFirst htwo start h

/-- The pages partition the history exactly if the mirror node's answer for the first page
carries no link. -/
theorem partitionsHistory_iff (hserves : ServesPages getResults troveManager history pageSize)
    {start : PageVisit} (h : IsTimestamp (start.timestamp clock)) :
    PartitionsHistory getResults troveManager clock history start ↔
      (start.response getResults troveManager clock).next = none := by
  rw [← next_eq_none_iff hserves h,
    ← (hserves.inclusive clock).once_iff history.newestFirst h]
  exact ⟨fun hparts => ⟨hparts.ends, hparts.once⟩, fun hparts => ⟨hparts.1, hparts.2⟩⟩

end Serves

/-- Whether a result satisfies a condition on timestamps. -/
def meetsTimestamp (result : ContractResult) (condition : Text) : Bool :=
  let (operator, timestamp) := Decimal.splitAtFirst ':' condition
  let bound := Decimal.coefficientValue timestamp
  if operator = "lte".toList then result.time ≤ bound
  else if operator = "lt".toList then result.time < bound
  else if operator = "gte".toList then bound ≤ result.time
  else if operator = "gt".toList then bound < result.time
  else result.time = bound

/-- The operator of the link behind the last result of a page. -/
def linkOperator : Option LogOrder → Text
  | some .asc => "gt:".toList
  | _ => "lt:".toList

/-- The link behind the last result of a page. -/
def linkAfter (order : Option LogOrder) (result : ContractResult) : Href where
  pathname := "/api/v1/contracts/results".toList
  searchParams := [(timestampName, linkOperator order ++ result.timestamp.getD [])]
  hash := []

theorem get_linkAfter {result : ContractResult} {timestamp : Text}
    (h : result.timestamp = some timestamp) :
    (linkAfter none result).get timestampName = some ("lt:".toList ++ timestamp) := by
  have hparams : (linkAfter none result).searchParams =
      [(timestampName, linkOperator none ++ result.timestamp.getD [])] := rfl
  have hfind : (linkAfter none result).searchParams.find? (fun param => param.1 == timestampName) =
      some (timestampName, linkOperator none ++ timestamp) := by
    rw [hparams, h]
    exact List.find?_cons_of_pos (beq_self_eq_true timestampName)
  rw [Href.get, hfind]
  rfl

/-- A mirror node that lists results newest first and fills its pages. -/
def fillPages (results : List ContractResult) (pageSize : Nat) (query : ResultsQuery) :
    ResultsResponse :=
  let matching := results.filter fun result => query.timestamp.all (meetsTimestamp result)
  let ordered := if query.order = some .asc then matching.reverse else matching
  let page := ordered.take pageSize
  { error := none
    results := some page
    next := if ordered.length ≤ pageSize then none
      else page.getLast?.map (linkAfter query.order) }

theorem meetsTimestamp_lte (result : ContractResult) (timestamp : Text) :
    meetsTimestamp result ("lte:".toList ++ timestamp) =
      decide (result.time ≤ Decimal.coefficientValue timestamp) := by
  have hcolon : ':' ∉ "lte".toList := by decide
  have hsplit : Decimal.splitAtFirst ':' ("lte:".toList ++ timestamp) =
      ("lte".toList, timestamp) := Decimal.splitAtFirst_append hcolon timestamp
  rw [meetsTimestamp, hsplit]
  exact if_pos rfl

theorem fillPages_eq (history : History) (pageSize : Nat) (troveManager : String)
    (timestamp : Text) :
    fillPages history.results pageSize (resultsQuery troveManager timestamp) =
      { error := none
        results := some ((history.upTo timestamp).take pageSize)
        next := if (history.upTo timestamp).length ≤ pageSize then none
          else ((history.upTo timestamp).take pageSize).getLast?.map (linkAfter none) } := by
  simp only [fillPages, resultsQuery, List.all_cons, List.all_nil, Bool.and_true,
    meetsTimestamp_lte]
  rfl

/-- Pages of at least one result serve the page of redemptions. -/
theorem servesPages_fillPages (history : History) (troveManager : String) {pageSize : Nat}
    (h : 0 < pageSize) :
    ServesPages (fillPages history.results pageSize) troveManager history pageSize where
  page timestamp _ := by
    rw [fillPages_eq]
    exact ⟨_, rfl, List.take_prefix _ _, List.length_take_le _ _⟩
  more timestamp _ hleft := by
    rw [fillPages_eq] at hleft ⊢
    have hmore : ¬(history.upTo timestamp).length ≤ pageSize := by
      intro hall
      exact hleft (congrArg some (List.take_of_length_le hall))
    have hne : (history.upTo timestamp).take pageSize ≠ [] := by
      rw [Ne, List.take_eq_nil_iff, not_or]
      constructor
      · omega
      · rintro hnil
        rw [hnil] at hmore
        exact hmore (Nat.zero_le _)
    simp [hmore, List.getLast?_eq_some_getLast hne]
  link timestamp results href _ hresults hnext := by
    rw [fillPages_eq] at hresults hnext
    obtain rfl := Option.some.inj hresults
    dsimp only at hnext
    split at hnext
    · cases hnext
    · obtain ⟨result, hlast, rfl⟩ := Option.map_eq_some_iff.mp hnext
      have hmem : result ∈ history.results :=
        ((CursorPages.mem_upTo _ _).mp
          ((List.take_prefix _ _).subset (List.mem_of_getLast? hlast))).1
      obtain ⟨lastTimestamp, htimestamp, -⟩ := history.timestamped result hmem
      exact ⟨result, lastTimestamp, hlast, htimestamp, get_linkAfter htimestamp⟩

/-- A timestamp with nine places. -/
def timestampAt (seconds : Nat) : Text := Nat.toDigits 10 seconds ++ '.' :: "000000000".toList

theorem isTimestamp_timestampAt (seconds : Nat) : IsTimestamp (timestampAt seconds) :=
  ⟨_, _, .fraction (fun _ hc => Decimal.isDigit_of_mem_toDigits hc)
    (List.all_eq_true.mp (by decide)), Nat.toDigits_ne_nil⟩

def redemptionAt (seconds : Nat) : ContractResult where
  timestamp := some (timestampAt seconds)
  functionParameters := some (redeemCollateralFunctionParametersStart ++ "00".toList)
  «from» := some "0x01".toList

/-- The latest of three seconds first. -/
def threeRedemptions : History where
  results := [1718000003, 1718000002, 1718000001].map redemptionAt
  timestamped result h := by
    obtain ⟨seconds, -, rfl⟩ := List.mem_map.mp h
    exact ⟨_, rfl, isTimestamp_timestampAt seconds⟩
  newestFirst := by decide +kernel

/-- The first visit to the page of redemptions. -/
def firstVisit : PageVisit where
  location := ⟨"/redemptions".toList, [], []⟩
  loads := 0

/-- A page of three lists the three redemptions once. -/
theorem partitionsHistory_iff_three :
    PartitionsHistory (fillPages threeRedemptions.results 3) "0x02"
      (fun _ => timestampAt 1718000009) threeRedemptions firstVisit := by
  have hstart : IsTimestamp (firstVisit.timestamp fun _ => timestampAt 1718000009) :=
    isTimestamp_timestampAt 1718000009
  exact (partitionsHistory_iff (servesPages_fillPages threeRedemptions "0x02" (by decide))
    hstart).mpr (by decide +kernel)

/-- Pages of two list the second of the three redemptions twice. -/
theorem not_partitionsHistory_pageOfTwo :
    ServesPages (fillPages threeRedemptions.results 2) "0x02" threeRedemptions 2 ∧
      IsTimestamp (firstVisit.timestamp fun _ => timestampAt 1718000009) ∧
        ¬PartitionsHistory (fillPages threeRedemptions.results 2) "0x02"
          (fun _ => timestampAt 1718000009) threeRedemptions firstVisit := by
  refine ⟨servesPages_fillPages threeRedemptions "0x02" (by decide),
    isTimestamp_timestampAt 1718000009, fun hparts => ?_⟩
  have hnext : firstVisit.next (fillPages threeRedemptions.results 2) "0x02"
      (fun _ => timestampAt 1718000009) =
        some ⟨firstVisit.location.set timestampName (timestampAt 1718000002), 1⟩ := by
    decide +kernel
  have hwalk : Pages (fillPages threeRedemptions.results 2) "0x02"
      (fun _ => timestampAt 1718000009) firstVisit _ := .more hnext (.last (by decide +kernel))
  have hshown := hparts.once _ hwalk (redemptionAt 1718000002) (by decide +kernel)
  revert hshown
  decide +kernel

end HLiquity
