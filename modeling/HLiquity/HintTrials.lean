import HLiquity.DecimalHex
import HLiquity.Population

/-!
# Trials for a hint

Both clients split the trials for a hint into chunks and request them one after
the other, each with the random seed that the previous one returned. The
Hashgraph client reads the seed into a number on the way. Numbers have 53
significant bits, so from some total on the chunks no longer add up to it.
-/

namespace HLiquity

/-- The number nearest to a whole value. -/
def numberOf (value : ℤ) : ℤ := value.sign * SignificantBits.nearest 53 value.natAbs

/-- A number holds the value exactly. -/
def IsNumber (value : Nat) : Prop := SignificantBits.unit 53 value ∣ value

instance (value : Nat) : Decidable (IsNumber value) := inferInstanceAs (Decidable (_ ∣ _))

theorem numberOf_natCast (value : Nat) :
    numberOf value = (SignificantBits.nearest 53 value : Nat) := by
  rw [numberOf, Int.natAbs_natCast]
  rcases Nat.eq_zero_or_pos value with rfl | hpos
  · rfl
  · rw [Int.sign_natCast_of_ne_zero hpos.ne', one_mul]

theorem numberOf_of_isNumber {value : Nat} (h : IsNumber value) : numberOf value = value := by
  rw [numberOf_natCast, (SignificantBits.nearest_eq_self_iff 53 value).mpr h]

/-- Values below the safe integers are numbers. -/
theorem isNumber_of_lt {value : Nat} (h : value < 2 ^ 53) : IsNumber value :=
  (SignificantBits.nearest_eq_self_iff 53 value).mp (SignificantBits.nearest_of_lt h)

/-- One pass of the loop of `generateTrials`: what it yields and what remains. -/
def trialsPass (totalNumberOfTrials : ℤ) : Option (ℤ × ℤ) :=
  if totalNumberOfTrials = 0 then none
  else
    let numberOfTrials := min totalNumberOfTrials (maxNumberOfTrialsAtOnce : ℤ)
    some (numberOfTrials, numberOf (totalNumberOfTrials - numberOfTrials))

/-- What `generateTrials` of the Hashgraph client yields, if its loop ends within some
passes. -/
def HashgraphLiquity.generateTrials : Nat → ℤ → Option (List ℤ)
  | 0, _ => none
  | passes + 1, totalNumberOfTrials =>
      match trialsPass totalNumberOfTrials with
      | none => some []
      | some (numberOfTrials, remaining) =>
          (generateTrials passes remaining).map (numberOfTrials :: ·)

/-- `generateTrials` of the Ethers client asserts a positive number first. -/
def PopulatableEthersLiquity.generateTrials (passes : Nat) (totalNumberOfTrials : ℤ) :
    Result (Option (List ℤ)) := do
  assert (0 < totalNumberOfTrials)
    "Number.isInteger(totalNumberOfTrials) && totalNumberOfTrials > 0"
  return HashgraphLiquity.generateTrials passes totalNumberOfTrials

/-- Chunks within the bounds that add up to a number of trials. -/
structure SplitsTrials (totalNumberOfTrials : Nat) (chunks : List Nat) : Prop where
  bounds : ∀ numberOfTrials ∈ chunks, 1 ≤ numberOfTrials ∧ numberOfTrials ≤ 2500
  sum : chunks.sum = totalNumberOfTrials

/-- What a chunk leaves of a total is a number, since a chunk is a multiple of four. -/
theorem isNumber_sub_chunk {total : Nat} (hlt : total < 2 ^ 55 + 2500) (h : IsNumber total) :
    IsNumber (total - min total maxNumberOfTrialsAtOnce) := by
  rcases le_total total maxNumberOfTrialsAtOnce with hle | hle
  · rw [min_eq_left hle, Nat.sub_self]
    exact isNumber_of_lt (by decide)
  · rw [min_eq_right hle]
    refine SignificantBits.unit_dvd_sub (show 2 ^ 2 ∣ maxNumberOfTrialsAtOnce by decide) ?_ h
    rw [maxNumberOfTrialsAtOnce]
    omega

/-- A pass yields a chunk of the total and leaves the rest, rounded to a number. -/
theorem trialsPass_of_ne_zero {total : Nat} (h : total ≠ 0) :
    trialsPass total = some (((min total maxNumberOfTrialsAtOnce : Nat) : ℤ),
      numberOf (total - min total maxNumberOfTrialsAtOnce : Nat)) := by
  have hne : (total : ℤ) ≠ 0 := by omega
  rw [trialsPass, if_neg hne, Nat.cast_sub (min_le_left _ _), Nat.cast_min]

/-- The first total from which a pass leaves another rest than the chunk does. -/
example : trialsPass (2 ^ 55 + 2504) = some (2500, 2 ^ 55) := by decide +kernel

/-- A pass over a large total leaves all of it, since a chunk is less than half its last
place. -/
theorem trialsPass_of_lt {total : Nat} (hlt : 2 ^ 65 < total) (h : IsNumber total) :
    trialsPass total = some ((maxNumberOfTrialsAtOnce : ℤ), (total : ℤ)) := by
  have hle : maxNumberOfTrialsAtOnce ≤ total := by
    rw [maxNumberOfTrialsAtOnce]
    omega
  have hplaces : 2 ^ 13 ∣ total :=
    (SignificantBits.dvd_unit_of_le (show 2 ^ (53 + 12) ≤ total from hlt.le)).trans h
  have hrest : 2 ^ (53 + 12) ≤ total - maxNumberOfTrialsAtOnce := by
    rw [maxNumberOfTrialsAtOnce]
    omega
  have hhalf : 2 * maxNumberOfTrialsAtOnce <
      SignificantBits.unit 53 (total - maxNumberOfTrialsAtOnce) := by
    have hplace := Nat.le_of_dvd (SignificantBits.unit_pos 53 _)
      (SignificantBits.dvd_unit_of_le hrest)
    exact lt_of_lt_of_le (by decide) hplace
  rw [trialsPass_of_ne_zero (by omega), min_eq_right hle, numberOf_natCast,
    SignificantBits.nearest_sub_eq_self h hhalf hle]

/-- The chunks are within the bounds and lose no trial. -/
theorem splitsTrials_generateTrials (total : Nat) : SplitsTrials total (generateTrials total) := by
  induction total using generateTrials.induct with
  | case1 => exact ⟨by simp [generateTrials], by simp [generateTrials]⟩
  | case2 total hne numberOfTrials ih =>
      rw [generateTrials, if_neg hne]
      have hmost : min total maxNumberOfTrialsAtOnce ≤ 2500 := min_le_right _ _
      have hone : 1 ≤ min total maxNumberOfTrialsAtOnce :=
        le_min (Nat.one_le_iff_ne_zero.mpr hne) (by decide)
      constructor
      · exact List.forall_mem_cons.mpr ⟨⟨hone, hmost⟩, ih.bounds⟩
      · rw [List.sum_cons, ih.sum]
        exact Nat.add_sub_cancel' (min_le_left _ _)

/-- While no subtraction is rounded, the loop ends within more passes than there are trials, and
it yields the chunks. -/
theorem generateTrials_ends {total : Nat} (hlt : total < 2 ^ 55 + 2500) (hnumber : IsNumber total)
    {passes : Nat} (h : total < passes) :
    HashgraphLiquity.generateTrials passes total =
      some ((generateTrials total).map (Nat.cast : ℕ → ℤ)) := by
  induction total using Nat.strong_induction_on generalizing passes with
  | _ total ih =>
      obtain ⟨passes, rfl⟩ := Nat.exists_eq_succ_of_ne_zero (Nat.ne_zero_of_lt h)
      by_cases hnone : total = 0
      · rw [hnone, generateTrials]
        rfl
      · have hone : 1 ≤ min total maxNumberOfTrialsAtOnce :=
          le_min (Nat.one_le_iff_ne_zero.mpr hnone) (by decide)
        have hleft := isNumber_sub_chunk hlt hnumber
        have hrest := ih (total - min total maxNumberOfTrialsAtOnce) (by omega) (by omega) hleft
          (show total - min total maxNumberOfTrialsAtOnce < passes by omega)
        rw [HashgraphLiquity.generateTrials, trialsPass_of_ne_zero hnone,
          numberOf_of_isNumber hleft, generateTrials, if_neg hnone]
        simp only [hrest, Option.map_some, List.map_cons]

/-- From a large total the loop never ends. -/
theorem generateTrials_stuck {total : Nat} (hlt : 2 ^ 65 < total) (hnumber : IsNumber total)
    (passes : Nat) : HashgraphLiquity.generateTrials passes total = none := by
  induction passes with
  | zero => rfl
  | succ passes ih =>
      rw [HashgraphLiquity.generateTrials, trialsPass_of_lt hlt hnumber]
      simp only [ih, Option.map_none]

/-- The Ethers client yields the same for a positive number. -/
theorem generateTrials_ethers {total : Nat} (h : 0 < total) (passes : Nat) :
    PopulatableEthersLiquity.generateTrials passes total =
      .ok (HashgraphLiquity.generateTrials passes total) := by
  have hpositive : (0 : ℤ) < total := by exact_mod_cast h
  rw [PopulatableEthersLiquity.generateTrials, decide_eq_true hpositive, assert_true,
    Result.ok_bind]
  rfl

/-- What the contract answers to `getApproxHint`. -/
structure ApproxHintResult where
  hintAddress : String
  diff : Nat
  latestRandomSeed : Nat
  deriving DecidableEq, Repr

/-- A request of `getApproxHint`. -/
structure ApproxHintRequest where
  nominalCollateralRatio : Text
  numberOfTrials : ℤ
  inputRandomSeed : Nat
  deriving DecidableEq, Repr

/-- The requests made so far, and the answers to the ones that follow. -/
structure HintHelpers where
  requests : List ApproxHintRequest
  answers : List ApproxHintResult
  deriving DecidableEq, Repr

/-- A difference to the ratio with the address of a hint. -/
structure HintResult (Diff : Type) where
  diff : Diff
  hintAddress : String
  deriving DecidableEq, Repr

/-- What has been collected from the answers. -/
structure CollectedHints (Diff : Type) where
  latestRandomSeed : Nat
  results : List (HintResult Diff)
  deriving DecidableEq, Repr

/-- What a client reads of an answer, and how it compares differences. -/
structure HintReading (Diff : Type) where
  latestRandomSeed : Nat → Nat
  diff : Nat → Diff
  lt : Diff → Diff → Bool
  lt_iff : ∀ a b, lt (diff a) (diff b) = true ↔ a < b

/-- The Hashgraph client reads the seed as a number and the difference as a decimal. -/
def HashgraphLiquity.hintReading : HintReading Decimal where
  latestRandomSeed := latestRandomSeed
  diff := decimalify
  lt := Decimal.lt
  lt_iff _ _ := Decimal.lt_iff

/-- The Ethers client keeps both as they are. -/
def PopulatableEthersLiquity.hintReading : HintReading Nat where
  latestRandomSeed := latestRandomSeed
  diff := id
  lt a b := decide (a < b)
  lt_iff _ _ := decide_eq_true_iff

section Search

variable {Diff : Type} (reading : HintReading Diff) (nominalCollateralRatio : Decimal)

/-- `collectApproxHint`. A request that is not answered collects nothing. -/
def collectApproxHint (previous : CollectedHints Diff) (numberOfTrials : ℤ)
    (hintHelpers : HintHelpers) : Option (CollectedHints Diff) × HintHelpers :=
  let requests := hintHelpers.requests ++
    [⟨nominalCollateralRatio.hex, numberOfTrials, previous.latestRandomSeed⟩]
  match hintHelpers.answers with
  | [] => (none, ⟨requests, []⟩)
  | approxHintResult :: answers =>
      let result :=
        { diff := reading.diff approxHintResult.diff, hintAddress := approxHintResult.hintAddress }
      (some ⟨reading.latestRandomSeed approxHintResult.latestRandomSeed,
        previous.results ++ [result]⟩, ⟨requests, answers⟩)

/-- `previous.then(state => collectApproxHint(state, numberOfTrials))` -/
def thenCollect (previous : Option (CollectedHints Diff) × HintHelpers) (numberOfTrials : ℤ) :
    Option (CollectedHints Diff) × HintHelpers :=
  match previous with
  | (none, hintHelpers) => (none, hintHelpers)
  | (some state, hintHelpers) =>
      collectApproxHint reading nominalCollateralRatio state numberOfTrials hintHelpers

/-- `results.reduce((a, b) => (a.diff.lt(b.diff) ? a : b))`, which throws for no results. -/
def selectHint : List (HintResult Diff) → Option (HintResult Diff)
  | [] => none
  | first :: rest => some (rest.foldl (fun a b => if reading.lt a.diff b.diff then a else b) first)

/-- The requests and the selection of `findHintsForNominalCollateralRatio`, with the
chunks `[firstTrials, ...restOfTrials]` and the first random seed. -/
def searchHint (firstTrials : ℤ) (restOfTrials : List ℤ) (latestRandomSeed : Nat)
    (answers : List ApproxHintResult) : Option (HintResult Diff) × HintHelpers :=
  let collected := restOfTrials.foldl (thenCollect reading nominalCollateralRatio)
    (collectApproxHint reading nominalCollateralRatio ⟨latestRandomSeed, []⟩ firstTrials
      ⟨[], answers⟩)
  (collected.1.bind fun state => selectHint reading state.results, collected.2)

/-- The request for a chunk with a seed. -/
def requestOf (numberOfTrials : ℤ) (inputRandomSeed : Nat) : ApproxHintRequest :=
  ⟨nominalCollateralRatio.hex, numberOfTrials, inputRandomSeed⟩

/-- What a client reads of an answer. -/
def resultOf (answer : ApproxHintResult) : HintResult Diff :=
  ⟨reading.diff answer.diff, answer.hintAddress⟩

/-- The seed that a client passes on from an answer. -/
def seedOf (answer : ApproxHintResult) : Nat := reading.latestRandomSeed answer.latestRandomSeed

/-- Chunks that are answered are requested in turn, and all answers are collected. -/
theorem foldl_thenCollect (trials : List ℤ) (state : CollectedHints Diff)
    (requests : List ApproxHintRequest) (answers : List ApproxHintResult)
    (h : answers.length = trials.length) :
    ∃ latestRandomSeed, trials.foldl (thenCollect reading nominalCollateralRatio)
        (some state, ⟨requests, answers⟩) =
      (some ⟨latestRandomSeed, state.results ++ answers.map (resultOf reading)⟩,
        ⟨requests ++ List.zipWith (requestOf nominalCollateralRatio) trials
          (state.latestRandomSeed :: answers.map (seedOf reading)), []⟩) := by
  induction trials generalizing state requests answers with
  | nil =>
      obtain rfl := List.length_eq_zero_iff.mp h
      exact ⟨state.latestRandomSeed, by simp⟩
  | cons numberOfTrials trials ih =>
      cases answers with
      | nil => cases h
      | cons answer answers =>
          obtain ⟨latestRandomSeed, hrest⟩ := ih
            ⟨seedOf reading answer, state.results ++ [resultOf reading answer]⟩
            (requests ++ [requestOf nominalCollateralRatio numberOfTrials state.latestRandomSeed])
            answers (Nat.succ.inj h)
          refine ⟨latestRandomSeed, ?_⟩
          rw [List.append_assoc, List.append_assoc] at hrest
          exact hrest

/-- A seed after the last chunk is not asked with. -/
theorem zipWith_dropLast {A B C : Type} (f : A → B → C) (seed : B) {chunks : List A}
    {seeds : List B} (h : seeds.length = chunks.length) :
    List.zipWith f chunks (seed :: seeds) = List.zipWith f chunks (seed :: seeds.dropLast) := by
  induction chunks generalizing seed seeds with
  | nil => rfl
  | cons chunk chunks ih =>
      cases seeds with
      | nil => cases h
      | cons next seeds =>
          cases seeds with
          | nil =>
              obtain rfl := List.length_eq_zero_iff.mp (Nat.succ.inj h).symm
              rfl
          | cons later seeds =>
              rw [List.dropLast_cons_of_ne_nil (List.cons_ne_nil later seeds),
                List.zipWith_cons_cons, List.zipWith_cons_cons, ih next (Nat.succ.inj h)]

/-- What a search requests and selects when all its requests are answered. -/
theorem searchHint_eq (firstTrials : ℤ) (restOfTrials : List ℤ) (latestRandomSeed : Nat)
    {answers : List ApproxHintResult} (h : answers.length = (firstTrials :: restOfTrials).length) :
    searchHint reading nominalCollateralRatio firstTrials restOfTrials latestRandomSeed answers =
      (selectHint reading (answers.map (resultOf reading)),
        ⟨List.zipWith (requestOf nominalCollateralRatio) (firstTrials :: restOfTrials)
          (latestRandomSeed :: answers.dropLast.map (seedOf reading)), []⟩) := by
  obtain ⟨latest, hfold⟩ := foldl_thenCollect reading nominalCollateralRatio
    (firstTrials :: restOfTrials) ⟨latestRandomSeed, []⟩ [] answers h
  have hseeds := zipWith_dropLast (requestOf nominalCollateralRatio) latestRandomSeed
    ((List.length_map (seedOf reading)).trans h)
  rw [← List.map_dropLast] at hseeds
  rw [hseeds] at hfold
  rw [searchHint]
  change (_, _) = _
  have hcollected : restOfTrials.foldl (thenCollect reading nominalCollateralRatio)
      (collectApproxHint reading nominalCollateralRatio ⟨latestRandomSeed, []⟩ firstTrials
        ⟨[], answers⟩) = _ := hfold
  rw [hcollected]
  rfl

/-- The reduction keeps a result whose difference is least. -/
theorem foldl_least (first : ApproxHintResult) (rest : List ApproxHintResult) :
    ∃ answer ∈ first :: rest,
      (rest.map (resultOf reading)).foldl (fun a b => if reading.lt a.diff b.diff then a else b)
        (resultOf reading first) = resultOf reading answer ∧
      ∀ other ∈ first :: rest, answer.diff ≤ other.diff := by
  induction rest generalizing first with
  | nil => exact ⟨first, by simp, rfl, by simp⟩
  | cons next rest ih =>
      have hlt : reading.lt (resultOf reading first).diff (resultOf reading next).diff = true ↔
          first.diff < next.diff := reading.lt_iff first.diff next.diff
      rw [List.map_cons, List.foldl_cons]
      by_cases hless : first.diff < next.diff
      · rw [if_pos (hlt.mpr hless)]
        obtain ⟨answer, hmem, hfold, hleast⟩ := ih first
        have hfirst := hleast first List.mem_cons_self
        refine ⟨answer, ?_, hfold, ?_⟩
        · exact (List.mem_cons.mp hmem).elim (fun heq => heq ▸ List.mem_cons_self)
            fun hrest => List.mem_cons_of_mem _ (List.mem_cons_of_mem _ hrest)
        · refine List.forall_mem_cons.mpr ⟨hfirst, List.forall_mem_cons.mpr ⟨?_, ?_⟩⟩
          · exact hfirst.trans hless.le
          · exact fun other hother => hleast other (List.mem_cons_of_mem _ hother)
      · rw [if_neg (mt hlt.mp hless)]
        obtain ⟨answer, hmem, hfold, hleast⟩ := ih next
        refine ⟨answer, List.mem_cons_of_mem _ hmem, hfold, ?_⟩
        refine List.forall_mem_cons.mpr ⟨?_, hleast⟩
        exact (hleast next List.mem_cons_self).trans (not_lt.mp hless)

/-- Every chunk is requested once and in order, with the seed that the previous request
returned, and an answer whose difference is least is selected. -/
structure SearchesWell (firstTrials : ℤ) (restOfTrials : List ℤ) (latestRandomSeed : Nat)
    (answers : List ApproxHintResult) (outcome : Option (HintResult Diff) × HintHelpers) :
    Prop where
  requests : outcome.2.requests =
    List.zipWith (requestOf nominalCollateralRatio) (firstTrials :: restOfTrials)
      (latestRandomSeed :: answers.dropLast.map ApproxHintResult.latestRandomSeed)
  selected : ∃ answer ∈ answers, outcome.1 = some (resultOf reading answer) ∧
    ∀ other ∈ answers, answer.diff ≤ other.diff

/-- Requests with different seeds differ. -/
theorem zipWith_requestOf_inj {trials : List ℤ} {seeds others : List Nat}
    (hseeds : seeds.length = trials.length) (hothers : others.length = trials.length)
    (h : List.zipWith (requestOf nominalCollateralRatio) trials seeds =
      List.zipWith (requestOf nominalCollateralRatio) trials others) : seeds = others := by
  induction trials generalizing seeds others with
  | nil => rw [List.length_eq_zero_iff.mp hseeds, List.length_eq_zero_iff.mp hothers]
  | cons numberOfTrials trials ih =>
      cases seeds with
      | nil => cases hseeds
      | cons seed seeds =>
          cases others with
          | nil => cases hothers
          | cons other others =>
              rw [List.zipWith_cons_cons, List.zipWith_cons_cons, List.cons.injEq] at h
              have hseed : seed = other := congrArg ApproxHintRequest.inputRandomSeed h.1
              rw [hseed, ih (Nat.succ.inj hseeds) (Nat.succ.inj hothers) h.2]

/-- A search is sound exactly if the client passes on the seeds that it asks with. -/
theorem searchesWell_searchHint_iff {firstTrials : ℤ} {restOfTrials : List ℤ}
    (latestRandomSeed : Nat) {answers : List ApproxHintResult}
    (h : answers.length = (firstTrials :: restOfTrials).length) :
    SearchesWell reading nominalCollateralRatio firstTrials restOfTrials latestRandomSeed answers
        (searchHint reading nominalCollateralRatio firstTrials restOfTrials latestRandomSeed
          answers) ↔
      ∀ answer ∈ answers.dropLast, seedOf reading answer = answer.latestRandomSeed := by
  rw [searchHint_eq reading nominalCollateralRatio firstTrials restOfTrials latestRandomSeed h]
  have hlength : ∀ f : ApproxHintResult → Nat,
      (latestRandomSeed :: answers.dropLast.map f).length =
        (firstTrials :: restOfTrials).length := by
    intro f
    rw [List.length_cons, List.length_map, List.length_dropLast, h]
    rfl
  constructor
  · intro hsearch
    have hseeds := zipWith_requestOf_inj nominalCollateralRatio (hlength _) (hlength _)
      hsearch.requests
    exact List.map_inj_left.mp (List.cons.inj hseeds).2
  · intro hseeds
    refine ⟨?_, ?_⟩
    · rw [List.map_inj_left.mpr hseeds]
    · cases answers with
      | nil => cases h
      | cons first rest =>
          obtain ⟨answer, hmem, hfold, hleast⟩ := foldl_least reading first rest
          exact ⟨answer, hmem, congrArg some hfold, hleast⟩

end Search

/-- Reading a seed as a number keeps it exactly if a number holds it. -/
theorem HashgraphLiquity.latestRandomSeed_eq_iff (seed : Nat) :
    latestRandomSeed seed = seed ↔ IsNumber seed := by
  rw [latestRandomSeed, parseInt, Decimal.bigNumberFrom_toDigits]
  exact SignificantBits.nearest_eq_self_iff 53 seed

/-- Below the first total from which a rounded number remains, both clients split a positive
number of trials without loss, and their searches are sound together exactly if every seed that is
asked with again is a number. For large totals neither client ever ends its loop. -/
theorem hintSearches_sound_iff {totalNumberOfTrials : ℕ} (h : 0 < totalNumberOfTrials)
    (hnumber : IsNumber totalNumberOfTrials) :
    (totalNumberOfTrials < 2 ^ 55 + 2500 →
      ∃ (firstTrials : ℕ) (restOfTrials : List ℕ),
        SplitsTrials totalNumberOfTrials (firstTrials :: restOfTrials) ∧
        (∀ passes, totalNumberOfTrials < passes →
          HashgraphLiquity.generateTrials passes totalNumberOfTrials =
              some ((firstTrials :: restOfTrials).map (Nat.cast : ℕ → ℤ)) ∧
            PopulatableEthersLiquity.generateTrials passes totalNumberOfTrials =
              .ok (some ((firstTrials :: restOfTrials).map (Nat.cast : ℕ → ℤ)))) ∧
        ∀ (nominalCollateralRatio : Decimal) (latestRandomSeed : ℕ)
          (answers : List ApproxHintResult),
          answers.length = (firstTrials :: restOfTrials).length →
          (SearchesWell HashgraphLiquity.hintReading nominalCollateralRatio firstTrials
              (restOfTrials.map Nat.cast) latestRandomSeed answers
              (searchHint HashgraphLiquity.hintReading nominalCollateralRatio firstTrials
                (restOfTrials.map Nat.cast) latestRandomSeed answers) ∧
            SearchesWell PopulatableEthersLiquity.hintReading nominalCollateralRatio firstTrials
              (restOfTrials.map Nat.cast) latestRandomSeed answers
              (searchHint PopulatableEthersLiquity.hintReading nominalCollateralRatio firstTrials
                (restOfTrials.map Nat.cast) latestRandomSeed answers) ↔
            ∀ answer ∈ answers.dropLast, IsNumber answer.latestRandomSeed)) ∧
    (2 ^ 65 < totalNumberOfTrials → ∀ passes,
      HashgraphLiquity.generateTrials passes totalNumberOfTrials = none ∧
        PopulatableEthersLiquity.generateTrials passes totalNumberOfTrials = .ok none) := by
  constructor
  · intro hlt
    have hsplit := splitsTrials_generateTrials totalNumberOfTrials
    have hends : ∀ passes, totalNumberOfTrials < passes → _ :=
      fun passes hpasses => generateTrials_ends hlt hnumber hpasses
    cases htrials : generateTrials totalNumberOfTrials with
    | nil =>
        have hsum := hsplit.sum
        rw [htrials] at hsum
        exact absurd hsum.symm h.ne'
    | cons firstTrials restOfTrials =>
        rw [htrials] at hsplit hends
        refine ⟨firstTrials, restOfTrials, hsplit, ?_, ?_⟩
        · intro passes hpasses
          refine ⟨hends passes hpasses, ?_⟩
          rw [generateTrials_ethers h, hends passes hpasses]
        · intro nominalCollateralRatio latestRandomSeed answers hlength
          have hchunks : answers.length =
              ((firstTrials : ℤ) :: restOfTrials.map Nat.cast).length := by
            rw [hlength, List.length_cons, List.length_cons, List.length_map]
          rw [searchesWell_searchHint_iff _ _ _ hchunks, searchesWell_searchHint_iff _ _ _ hchunks]
          constructor
          · rintro ⟨hhashgraph, _⟩ answer hanswer
            exact (HashgraphLiquity.latestRandomSeed_eq_iff _).mp (hhashgraph answer hanswer)
          · intro hnumbers
            refine ⟨fun answer hanswer => ?_, fun _ _ => rfl⟩
            exact (HashgraphLiquity.latestRandomSeed_eq_iff _).mpr (hnumbers answer hanswer)
  · intro hlt passes
    have hstuck := generateTrials_stuck hlt hnumber passes
    refine ⟨hstuck, ?_⟩
    rw [generateTrials_ethers h, hstuck]

/-- Three answers, two with seeds beyond the safe integers that are numbers. -/
def evenSeedAnswers : List ApproxHintResult :=
  [⟨"0x01", 3, 2 ^ 53 + 2⟩, ⟨"0x02", 1, 2 ^ 200⟩, ⟨"0x03", 2, 2 ^ 53 + 1⟩]

/-- Six thousand trials are three chunks, and both searches are sound with these answers. -/
theorem hintSearches_sound_sixThousand :
    ∃ (firstTrials : ℕ) (restOfTrials : List ℕ),
      SplitsTrials 6000 (firstTrials :: restOfTrials) ∧
      SearchesWell HashgraphLiquity.hintReading Decimal.one firstTrials
        (restOfTrials.map Nat.cast) 1 evenSeedAnswers
        (searchHint HashgraphLiquity.hintReading Decimal.one firstTrials
          (restOfTrials.map Nat.cast) 1 evenSeedAnswers) ∧
      SearchesWell PopulatableEthersLiquity.hintReading Decimal.one firstTrials
        (restOfTrials.map Nat.cast) 1 evenSeedAnswers
        (searchHint PopulatableEthersLiquity.hintReading Decimal.one firstTrials
          (restOfTrials.map Nat.cast) 1 evenSeedAnswers) := by
  obtain ⟨firstTrials, restOfTrials, hsplit, hyields, hsearch⟩ :=
    (hintSearches_sound_iff (show 0 < 6000 by decide) (isNumber_of_lt (by decide))).1 (by decide)
  have hlength : evenSeedAnswers.length = (firstTrials :: restOfTrials).length := by
    have hchunks : HashgraphLiquity.generateTrials 6001 (6000 : ℕ) = some [2500, 2500, 1000] := by
      decide +kernel
    have hyielded := Option.some_inj.mp ((hyields 6001 (by decide)).1.symm.trans hchunks)
    have hthree := congrArg List.length hyielded
    rw [List.length_map] at hthree
    exact hthree.symm
  obtain ⟨hhashgraph, hethers⟩ :=
    (hsearch Decimal.one 1 evenSeedAnswers hlength).mpr (by decide +kernel)
  exact ⟨firstTrials, restOfTrials, hsplit, hhashgraph, hethers⟩

/-- Two answers, the first with a seed that is not a number. -/
def oddSeedAnswers : List ApproxHintResult :=
  [⟨"0x01", 3, 2 ^ 53 + 1⟩, ⟨"0x02", 1, 7⟩]

/-- The Hashgraph client asks for its second chunk with another seed than the one that
was returned, while the Ethers client asks with this one. -/
theorem not_searchesWell_oddSeed :
    HashgraphLiquity.generateTrials 3 5000 = some [2500, 2500] ∧
      ¬ SearchesWell HashgraphLiquity.hintReading Decimal.one 2500 [2500] 1 oddSeedAnswers
        (searchHint HashgraphLiquity.hintReading Decimal.one 2500 [2500] 1 oddSeedAnswers) ∧
      (searchHint HashgraphLiquity.hintReading Decimal.one 2500 [2500] 1
          oddSeedAnswers).2.requests.map ApproxHintRequest.inputRandomSeed = [1, 2 ^ 53] ∧
      (searchHint PopulatableEthersLiquity.hintReading Decimal.one 2500 [2500] 1
          oddSeedAnswers).2.requests.map ApproxHintRequest.inputRandomSeed = [1, 2 ^ 53 + 1] := by
  refine ⟨by decide +kernel, ?_, by decide +kernel, by decide +kernel⟩
  rintro ⟨hrequests, _⟩
  exact absurd hrequests (by decide +kernel)

end HLiquity
