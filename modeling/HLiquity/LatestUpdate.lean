import HLiquity.PreviousTroveState

/-!
# The latest update before a redemption

The search is to find the state that the latest log of a borrower tells. It depends on where
and when the logs are whether it does so: the latest one must not be whole weeks before the
redemption, its form of the address must be searched for, and of several logs at its time no
other may be found by an earlier query.
-/

namespace HLiquity

/-- A log tells of a trove of the borrower, under any form of its address. -/
def LogPosition.Updates (topic0 : String) (contractAddresses forms : List String)
    (position : LogPosition) : Prop :=
  position.address ∈ contractAddresses ∧ position.topic 0 = some topic0 ∧
    ∃ form ∈ forms, position.topic 1 = some (addressToTopic1 form)

instance (topic0 : String) (contractAddresses forms : List String) (position : LogPosition) :
    Decidable (position.Updates topic0 contractAddresses forms) :=
  inferInstanceAs (Decidable (_ ∧ _ ∧ _))

section Latest

variable {α : Type} (position : α → LogPosition) (topic0 : String)
  (contractAddresses topic1Variants forms : List String) (beforeTimestamp : ℚ)

/-- The updates between the floor of the search and a redemption. -/
def updatesBefore (chain : List α) : List α :=
  chain.filter fun log => decide ((position log).Updates topic0 contractAddresses forms ∧
    (position log).InWindow earliestSearchFloor beforeTimestamp)

/-- The first query that finds a log, or behind all of them. -/
def firstQuery (log : α) : Nat :=
  (topicQueries contractAddresses topic1Variants).findIdx ((position log).answers topic0)

/-- The latest update is not whole weeks before the redemption, its form of the address is
searched for, and no other update of its time is found by an earlier query. -/
def LatestIsFound (chain : List α) : Prop :=
  ∀ latest ∈ (updatesBefore position topic0 contractAddresses forms beforeTimestamp chain).getLast?,
    ¬ OnWindowBound beforeTimestamp (position latest).time ∧
      (∃ t1 ∈ topic1Variants, (position latest).topic 1 = some t1) ∧
      ∀ other ∈ updatesBefore position topic0 contractAddresses forms beforeTimestamp chain,
        (position other).time = (position latest).time →
          firstQuery position topic0 contractAddresses topic1Variants latest ≤
            firstQuery position topic0 contractAddresses topic1Variants other

variable {position topic0 contractAddresses topic1Variants forms beforeTimestamp} {chain : List α}

theorem mem_updatesBefore {log : α} :
    log ∈ updatesBefore position topic0 contractAddresses forms beforeTimestamp chain ↔
      log ∈ chain ∧ (position log).Updates topic0 contractAddresses forms ∧
        (position log).InWindow earliestSearchFloor beforeTimestamp := by
  rw [updatesBefore, List.mem_filter, decide_eq_true_iff]

theorem mem_foundBy {queries : List TopicQuery} {log : α} :
    log ∈ foundBy position topic0 queries chain ↔
      log ∈ chain ∧ ∃ query ∈ queries, (position log).answers topic0 query = true := by
  simp only [foundBy, List.mem_flatMap, List.mem_reverse, List.mem_filter]
  constructor
  · rintro ⟨query, hquery, hlog, hanswers⟩
    exact ⟨hlog, query, hquery, hanswers⟩
  · rintro ⟨hlog, query, hquery, hanswers⟩
    exact ⟨query, hquery, hlog, hanswers⟩

theorem mem_topicQueries {query : TopicQuery} :
    query ∈ topicQueries contractAddresses topic1Variants ↔
      query.1 ∈ contractAddresses ∧ query.2 ∈ topic1Variants := by
  obtain ⟨addr, t1⟩ := query
  simp [topicQueries]

theorem answers_iff {log : LogPosition} {query : TopicQuery} :
    log.answers topic0 query = true ↔
      log.address = query.1 ∧ log.topic 0 = some topic0 ∧ log.topic 1 = some query.2 := by
  simp only [LogPosition.answers, Bool.and_eq_true, beq_iff_eq, and_assoc]

/-- What is found is an update of the borrower, if only forms of its address are searched for. -/
theorem updates_of_answers
    (hforms : ∀ t1 ∈ topic1Variants, ∃ form ∈ forms, t1 = addressToTopic1 form)
    {log : LogPosition} {query : TopicQuery}
    (hquery : query ∈ topicQueries contractAddresses topic1Variants)
    (hanswers : log.answers topic0 query = true) :
    log.Updates topic0 contractAddresses forms := by
  obtain ⟨haddr, ht1⟩ := mem_topicQueries.mp hquery
  obtain ⟨haddress, htopic0, htopic1⟩ := answers_iff.mp hanswers
  obtain ⟨form, hform, heq⟩ := hforms query.2 ht1
  exact ⟨haddress ▸ haddr, htopic0, form, hform, heq ▸ htopic1⟩

/-- An update whose form of the address is searched for is found. -/
theorem exists_answers {log : LogPosition} (hupdates : log.Updates topic0 contractAddresses forms)
    (hsearched : ∃ t1 ∈ topic1Variants, log.topic 1 = some t1) :
    ∃ query ∈ topicQueries contractAddresses topic1Variants, log.answers topic0 query = true := by
  obtain ⟨haddress, htopic0, _⟩ := hupdates
  obtain ⟨t1, ht1, htopic1⟩ := hsearched
  exact ⟨(log.address, t1), mem_topicQueries.mpr ⟨haddress, ht1⟩,
    answers_iff.mpr ⟨rfl, htopic0, htopic1⟩⟩

/-- No update is later than the latest. -/
theorem time_le_latest (horder : InOrder position chain) {latest log : α}
    (hlatest : (updatesBefore position topic0 contractAddresses forms beforeTimestamp
      chain).getLast? = some latest)
    (hlog : log ∈ updatesBefore position topic0 contractAddresses forms beforeTimestamp chain) :
    (position log).time ≤ (position latest).time := by
  obtain ⟨earlier, hsplit⟩ := List.getLast?_eq_some_iff.mp hlatest
  have hordered : InOrder position
      (updatesBefore position topic0 contractAddresses forms beforeTimestamp chain) :=
    horder.filter _
  rw [hsplit, InOrder, List.pairwise_append] at hordered
  rw [hsplit, List.mem_append, List.mem_singleton] at hlog
  cases hlog with
  | inl hearlier => exact hordered.2.2 log hearlier latest (List.mem_singleton_self _)
  | inr heq => exact (congrArg (fun log => (position log).time) heq).le

/-- What a query among the first ones finds has its first query there. -/
theorem firstQuery_lt {log : α} {query : TopicQuery} {n : Nat}
    (hquery : query ∈ (topicQueries contractAddresses topic1Variants).take n)
    (hanswers : (position log).answers topic0 query = true) :
    firstQuery position topic0 contractAddresses topic1Variants log < n := by
  have hfirst := List.findIdx_lt_length.mpr ⟨query, hquery, hanswers⟩
  have hidx := @List.findIdx_append _ ((position log).answers topic0)
    ((topicQueries contractAddresses topic1Variants).take n)
    ((topicQueries contractAddresses topic1Variants).drop n)
  rw [List.take_append_drop, if_pos hfirst] at hidx
  rw [firstQuery, hidx]
  exact hfirst.trans_le (List.length_take_le _ _)

/-- All visible logs that are found are updates before the redemption. -/
theorem mem_updatesBefore_of_visible
    (hforms : ∀ t1 ∈ topic1Variants, ∃ form ∈ forms, t1 = addressToTopic1 form)
    {queries : List TopicQuery} (hqueries : queries ⊆ topicQueries contractAddresses topic1Variants)
    {log : α}
    (hlog : log ∈ visibleLogs position topic0 queries beforeTimestamp chain) :
    log ∈ updatesBefore position topic0 contractAddresses forms beforeTimestamp chain := by
  obtain ⟨hfound, hvisible⟩ := List.mem_filter.mp hlog
  obtain ⟨hchain, query, hquery, hanswers⟩ := mem_foundBy.mp hfound
  exact mem_updatesBefore.mpr ⟨hchain, updates_of_answers hforms (hqueries hquery) hanswers,
    (of_decide_eq_true hvisible).1⟩

theorem visibleLogs_append (queries more : List TopicQuery) :
    visibleLogs position topic0 (queries ++ more) beforeTimestamp chain =
      visibleLogs position topic0 queries beforeTimestamp chain ++
        visibleLogs position topic0 more beforeTimestamp chain := by
  rw [visibleLogs, foundBy, List.flatMap_append, List.filter_append]
  rfl

theorem visibleLogs_cons (query : TopicQuery) (queries : List TopicQuery) :
    visibleLogs position topic0 (query :: queries) beforeTimestamp chain =
      ((chain.filter fun log => (position log).answers topic0 query).reverse.filter
          fun log => decide ((position log).Visible beforeTimestamp)) ++
        visibleLogs position topic0 queries beforeTimestamp chain := by
  rw [visibleLogs, foundBy, List.flatMap_cons, List.filter_append]
  rfl

/-- A query that finds the latest update finds it in front of all other visible logs. -/
theorem answered_eq_cons
    (hforms : ∀ t1 ∈ topic1Variants, ∃ form ∈ forms, t1 = addressToTopic1 form)
    {query : TopicQuery} (hquery : query ∈ topicQueries contractAddresses topic1Variants)
    {latest : α}
    (hlatest : (updatesBefore position topic0 contractAddresses forms beforeTimestamp
      chain).getLast? = some latest)
    (hanswers : (position latest).answers topic0 query = true)
    (hvisible : (position latest).Visible beforeTimestamp) :
    ∃ rest, ((chain.filter fun log => (position log).answers topic0 query).reverse.filter
      fun log => decide ((position log).Visible beforeTimestamp)) = latest :: rest := by
  rw [updatesBefore, ← List.head?_reverse, ← List.filter_reverse] at hlatest
  obtain ⟨earlier, hupdates⟩ := List.head?_eq_some_iff.mp hlatest
  obtain ⟨newer, older, hsplit, hnone, _⟩ := List.filter_eq_cons_iff.mp hupdates
  rw [← List.filter_reverse, List.filter_filter, hsplit, List.filter_append]
  have hnewer : (newer.filter fun log => decide ((position log).Visible beforeTimestamp) &&
      (position log).answers topic0 query) = [] := by
    rw [List.filter_eq_nil_iff]
    intro log hlog hboth
    rw [Bool.and_eq_true, decide_eq_true_iff] at hboth
    apply hnone log hlog
    rw [decide_eq_true_iff]
    exact ⟨updates_of_answers hforms hquery hboth.2, hboth.1.1⟩
  rw [hnewer, List.nil_append, List.filter_cons_of_pos]
  · exact ⟨_, rfl⟩
  · rw [Bool.and_eq_true, decide_eq_true_iff]
    exact ⟨hvisible, hanswers⟩

/-- Under the condition the newest visible log is the latest update. -/
theorem newest_eq_latest (horder : InOrder position chain)
    (hforms : ∀ t1 ∈ topic1Variants, ∃ form ∈ forms, t1 = addressToTopic1 form)
    (h : LatestIsFound position topic0 contractAddresses topic1Variants forms beforeTimestamp
      chain) :
    NewestFirst.newest (fun log => (position log).time)
        (visibleLogs position topic0 (topicQueries contractAddresses topic1Variants)
          beforeTimestamp chain) =
      (updatesBefore position topic0 contractAddresses forms beforeTimestamp chain).getLast? := by
  cases hlatest : (updatesBefore position topic0 contractAddresses forms beforeTimestamp
      chain).getLast? with
  | none =>
      rw [NewestFirst.newest_eq_none_iff, List.eq_nil_iff_forall_not_mem]
      intro log hlog
      have hmem := mem_updatesBefore_of_visible hforms (List.Subset.refl _) hlog
      rw [List.getLast?_eq_none_iff.mp hlatest] at hmem
      cases hmem
  | some latest =>
      obtain ⟨hbound, hsearched, hfirst⟩ := h latest hlatest
      obtain ⟨_, hupdates, hwindow⟩ := mem_updatesBefore.mp (List.mem_of_getLast? hlatest)
      have hfound : firstQuery position topic0 contractAddresses topic1Variants latest <
          (topicQueries contractAddresses topic1Variants).length :=
        List.findIdx_lt_length.mpr (exists_answers hupdates hsearched)
      obtain ⟨rest, hrest⟩ := answered_eq_cons hforms (List.getElem_mem hfound) hlatest
        List.findIdx_getElem ⟨hwindow, hbound⟩
      have hsplit : visibleLogs position topic0 (topicQueries contractAddresses topic1Variants)
            beforeTimestamp chain =
          visibleLogs position topic0 ((topicQueries contractAddresses topic1Variants).take
              (firstQuery position topic0 contractAddresses topic1Variants latest))
            beforeTimestamp chain ++ latest :: (rest ++
          visibleLogs position topic0 ((topicQueries contractAddresses topic1Variants).drop
              (firstQuery position topic0 contractAddresses topic1Variants latest + 1))
            beforeTimestamp chain) := by
        rw [← List.cons_append, ← hrest, ← visibleLogs_cons, ← visibleLogs_append]
        congr 1
        exact ((congrArg _ (List.drop_eq_getElem_cons hfound).symm).trans
          (List.take_append_drop _ _)).symm
      rw [hsplit]
      apply NewestFirst.newest_of_split
      · intro log hlog
        have hupdate := mem_updatesBefore_of_visible hforms (List.take_subset _ _) hlog
        apply lt_of_le_of_ne (time_le_latest horder hlatest hupdate)
        intro heq
        obtain ⟨_, query, hquery, hanswers⟩ := mem_foundBy.mp (List.mem_filter.mp hlog).1
        exact absurd (firstQuery_lt hquery hanswers) (not_lt.mpr (hfirst log hupdate heq))
      · intro log hlog
        apply time_le_latest horder hlatest
        apply mem_updatesBefore_of_visible hforms (List.Subset.refl _)
        rw [hsplit]
        exact List.mem_append_right _ (List.mem_cons_of_mem _ hlog)

/-- The condition holds if the newest visible log is the latest update. -/
theorem latestIsFound_of_newest {latest : α}
    (hnewest : NewestFirst.newest (fun log => (position log).time)
      (visibleLogs position topic0 (topicQueries contractAddresses topic1Variants)
        beforeTimestamp chain) = some latest)
    (hlatest : (updatesBefore position topic0 contractAddresses forms beforeTimestamp
      chain).getLast? = some latest) :
    LatestIsFound position topic0 contractAddresses topic1Variants forms beforeTimestamp
      chain := by
  obtain ⟨hmem, _⟩ := NewestFirst.newest_spec _ hnewest
  obtain ⟨hfound, hvisible⟩ := List.mem_filter.mp hmem
  obtain ⟨_, query, hquery, hanswers⟩ := mem_foundBy.mp hfound
  have hvisible := of_decide_eq_true hvisible
  intro other hother
  rw [hlatest, Option.mem_some_iff] at hother
  subst hother
  refine ⟨hvisible.2, ⟨query.2, (mem_topicQueries.mp hquery).2, (answers_iff.mp hanswers).2.2⟩, ?_⟩
  intro other hother htime
  by_contra hlt
  rw [not_le] at hlt
  -- an earlier query would find the other log, and so the newest as well
  obtain ⟨hchain, _, hwindow⟩ := mem_updatesBefore.mp hother
  have hother_lt : firstQuery position topic0 contractAddresses topic1Variants other <
      (topicQueries contractAddresses topic1Variants).length :=
    hlt.trans_le List.findIdx_le_length
  have hquery_mem : (topicQueries contractAddresses topic1Variants)[firstQuery position topic0
        contractAddresses topic1Variants other] ∈
      (topicQueries contractAddresses topic1Variants).take
        (firstQuery position topic0 contractAddresses topic1Variants other + 1) :=
    List.mem_take_iff_getElem.mpr ⟨_, by omega, rfl⟩
  have hleft : other ∈ visibleLogs position topic0
      ((topicQueries contractAddresses topic1Variants).take
        (firstQuery position topic0 contractAddresses topic1Variants other + 1))
          beforeTimestamp chain := by
    rw [visibleLogs, List.mem_filter, mem_foundBy, decide_eq_true_iff]
    exact ⟨⟨hchain, _, hquery_mem, List.findIdx_getElem⟩, hwindow, htime ▸ hvisible.2⟩
  rw [← List.take_append_drop
    (firstQuery position topic0 contractAddresses topic1Variants other + 1)
    (topicQueries contractAddresses topic1Variants), visibleLogs_append] at hnewest
  have hnewest_left := NewestFirst.mem_left_of_newest _ hnewest hleft htime.ge
  obtain ⟨_, first, hfirst_mem, hfirst_answers⟩ :=
    mem_foundBy.mp (List.mem_filter.mp hnewest_left).1
  have hle := firstQuery_lt hfirst_mem hfirst_answers
  omega

end Latest

section Told

variable {α β : Type} {position : α → LogPosition} {topic0 : String}
  {contractAddresses topic1Variants forms : List String} {beforeTimestamp : ℚ}

theorem updatesBefore_map (g : β → α) (chain : List β) :
    updatesBefore position topic0 contractAddresses forms beforeTimestamp (chain.map g) =
      (updatesBefore (fun log => position (g log)) topic0 contractAddresses forms beforeTimestamp
        chain).map g :=
  List.filter_map

theorem visibleLogs_map (g : β → α) (queries : List TopicQuery) (chain : List β) :
    visibleLogs position topic0 queries beforeTimestamp (chain.map g) =
      (visibleLogs (fun log => position (g log)) topic0 queries beforeTimestamp chain).map g := by
  induction queries with
  | nil => rfl
  | cons query queries ih =>
      rw [visibleLogs_cons, visibleLogs_cons, ih, List.map_append, List.filter_map,
        ← List.map_reverse, List.filter_map]
      rfl

/-- The condition is about the positions of the logs only. -/
theorem latestIsFound_map (g : β → α) (chain : List β) :
    LatestIsFound position topic0 contractAddresses topic1Variants forms beforeTimestamp
        (chain.map g) ↔
      LatestIsFound (fun log => position (g log)) topic0 contractAddresses topic1Variants forms
        beforeTimestamp chain := by
  unfold LatestIsFound
  rw [updatesBefore_map, List.getLast?_map]
  simp only [Option.mem_def, Option.map_eq_some_iff, List.mem_map, forall_exists_index, and_imp,
    forall_apply_eq_imp_iff₂]
  rfl

end Told

/-- A log could tell of different states. -/
def TellsStates (parseLog : ParseLog) (position : LogPosition) : Prop :=
  ∃ data other state otherState, stateOf parseLog ⟨position, data⟩ = some state ∧
    stateOf parseLog ⟨position, other⟩ = some otherState ∧ state ≠ otherState

/-- Such a log could tell another state than a given one. -/
theorem TellsStates.exists_ne {parseLog : ParseLog} {position : LogPosition}
    (h : TellsStates parseLog position) (told : Option TroveState) :
    ∃ data, (stateOf parseLog ⟨position, data⟩).isSome ∧
      stateOf parseLog ⟨position, data⟩ ≠ told := by
  obtain ⟨data, other, state, otherState, hstate, hother, hne⟩ := h
  by_cases htold : told = some state
  · refine ⟨other, by rw [hother, Option.isSome_some], ?_⟩
    rw [hother, htold]
    exact fun heq => hne (Option.some_inj.mp heq).symm
  · refine ⟨data, by rw [hstate, Option.isSome_some], ?_⟩
    rw [hstate]
    exact fun heq => htold heq.symm

/-- Whatever the logs at these positions say, the search finds the state that the latest update
before the redemption tells, and nothing exactly if there is none. -/
def FindsPrevious (parseLog : ParseLog) (topic0 : String)
    (account : String → Option (Option String)) (contractAddresses forms : List String)
    (borrower : String) (beforeTimestamp : ℚ) (positions : List LogPosition) : Prop :=
  ∀ chain : List MirrorLog, chain.map MirrorLog.toLogPosition = positions →
    (∀ log ∈ chain, log.Updates topic0 contractAddresses forms →
      (stateOf parseLog log).isSome) →
    getPreviousTroveState parseLog topic0 (mirrorNode account chain) borrower beforeTimestamp
        contractAddresses =
      (updatesBefore MirrorLog.toLogPosition topic0 contractAddresses forms beforeTimestamp
        chain).getLast?.bind (stateOf parseLog)

section Finds

variable {parseLog : ParseLog} {topic0 : String} {account : String → Option (Option String)}
  {contractAddresses forms : List String} {borrower : String} {beforeTimestamp : ℚ}
  {positions : List LogPosition}

theorem forms_of_variants (hborrower : borrower ∈ forms)
    (halias : ∀ ecdsaAlias ∈ getEcdsaAlias (mirrorNode account []) borrower, ecdsaAlias ∈ forms) :
    ∀ t1 ∈ buildTopic1Variants (mirrorNode account []) borrower,
      ∃ form ∈ forms, t1 = addressToTopic1 form := by
  intro t1 ht1
  unfold buildTopic1Variants at ht1
  split at ht1
  · split at ht1
    · exact ⟨borrower, hborrower, List.mem_singleton.mp ht1⟩
    · rename_i ecdsaAlias hecdsaAlias
      rw [List.mem_cons, List.mem_singleton] at ht1
      cases ht1 with
      | inl heq => exact ⟨borrower, hborrower, heq⟩
      | inr heq => exact ⟨ecdsaAlias, halias ecdsaAlias hecdsaAlias, heq⟩
  · exact ⟨borrower, hborrower, List.mem_singleton.mp ht1⟩

theorem exists_data (htells : ∀ position ∈ positions,
      position.Updates topic0 contractAddresses forms → TellsStates parseLog position) :
    ∃ data : LogPosition → Option String, ∀ position ∈ positions,
      position.Updates topic0 contractAddresses forms →
        (stateOf parseLog ⟨position, data position⟩).isSome := by
  have hdata (position : LogPosition) : ∃ data, position ∈ positions →
      position.Updates topic0 contractAddresses forms →
        (stateOf parseLog ⟨position, data⟩).isSome := by
    by_cases h : position ∈ positions ∧ position.Updates topic0 contractAddresses forms
    · obtain ⟨data, hsome, _⟩ := (htells position h.1 h.2).exists_ne none
      exact ⟨data, fun _ _ => hsome⟩
    · exact ⟨none, fun hmem hupdates => absurd ⟨hmem, hupdates⟩ h⟩
  choose data hdata using hdata
  exact ⟨data, hdata⟩

/-- What is found is parsed if all updates are. -/
theorem parsed_of_updates {chain : List MirrorLog} {topic1Variants : List String}
    (hforms : ∀ t1 ∈ topic1Variants, ∃ form ∈ forms, t1 = addressToTopic1 form)
    (hparsed : ∀ log ∈ chain, log.Updates topic0 contractAddresses forms →
      (stateOf parseLog log).isSome) :
    ∀ log ∈ foundBy MirrorLog.toLogPosition topic0
      (topicQueries contractAddresses topic1Variants) chain, (stateOf parseLog log).isSome := by
  intro log hlog
  obtain ⟨hchain, query, hquery, hanswers⟩ := mem_foundBy.mp hlog
  exact hparsed log hchain (updates_of_answers hforms hquery hanswers)

/-- With any data at the positions, the newest visible position and the latest update tell the
same. -/
theorem newest_tells (horder : InOrder id positions)
    (hforms : ∀ t1 ∈ buildTopic1Variants (mirrorNode account []) borrower,
      ∃ form ∈ forms, t1 = addressToTopic1 form)
    (hfinds : FindsPrevious parseLog topic0 account contractAddresses forms borrower
      beforeTimestamp positions)
    {data : LogPosition → Option String}
    (hdata : ∀ position ∈ positions, position.Updates topic0 contractAddresses forms →
      (stateOf parseLog ⟨position, data position⟩).isSome) :
    ((NewestFirst.newest LogPosition.time (visibleLogs id topic0
        (topicQueries contractAddresses (buildTopic1Variants (mirrorNode account []) borrower))
          beforeTimestamp positions)).bind fun position =>
            stateOf parseLog ⟨position, data position⟩) =
      (updatesBefore id topic0 contractAddresses forms beforeTimestamp positions).getLast?.bind
        fun position => stateOf parseLog ⟨position, data position⟩ := by
  let told (position : LogPosition) : MirrorLog := ⟨position, data position⟩
  have hpositions : (positions.map told).map MirrorLog.toLogPosition = positions := by
    rw [List.map_map]
    exact List.map_id positions
  have hparsed : ∀ log ∈ positions.map told, log.Updates topic0 contractAddresses forms →
      (stateOf parseLog log).isSome := by
    intro log hlog hupdates
    obtain ⟨position, hposition, rfl⟩ := List.mem_map.mp hlog
    exact hdata position hposition hupdates
  have hordered : InOrder MirrorLog.toLogPosition (positions.map told) :=
    List.pairwise_map.mpr horder
  have hfound := hfinds (positions.map told) hpositions hparsed
  rw [getPreviousTroveState_eq hordered (parsed_of_updates hforms hparsed), visibleLogs_map,
    NewestFirst.newest_map, updatesBefore_map, List.getLast?_map, Option.bind_map,
    Option.bind_map] at hfound
  exact hfound

/-- Other data at one update, which tells of a state, leaves all updates told. -/
theorem told_update {data : LogPosition → Option String}
    (hdata : ∀ position ∈ positions, position.Updates topic0 contractAddresses forms →
      (stateOf parseLog ⟨position, data position⟩).isSome)
    {latest : LogPosition} {other : Option String}
    (hother : (stateOf parseLog ⟨latest, other⟩).isSome) :
    ∀ position ∈ positions, position.Updates topic0 contractAddresses forms →
      (stateOf parseLog ⟨position, Function.update data latest other position⟩).isSome := by
  intro position hmem hupdate
  by_cases heq : position = latest
  · rw [heq, Function.update_self]
    exact hother
  · rw [Function.update_of_ne heq]
    exact hdata position hmem hupdate

/-- A search that finds the told state whatever the logs say has the latest update as the newest
visible position. -/
theorem newest_eq_some (horder : InOrder id positions)
    (hforms : ∀ t1 ∈ buildTopic1Variants (mirrorNode account []) borrower,
      ∃ form ∈ forms, t1 = addressToTopic1 form)
    (htells : ∀ position ∈ positions, position.Updates topic0 contractAddresses forms →
      TellsStates parseLog position)
    (hfinds : FindsPrevious parseLog topic0 account contractAddresses forms borrower
      beforeTimestamp positions)
    {latest : LogPosition}
    (hlatest : (updatesBefore id topic0 contractAddresses forms beforeTimestamp
      positions).getLast? = some latest) :
    NewestFirst.newest LogPosition.time (visibleLogs id topic0
      (topicQueries contractAddresses (buildTopic1Variants (mirrorNode account []) borrower))
        beforeTimestamp positions) = some latest := by
  obtain ⟨hposition, hupdates, _⟩ := mem_updatesBefore.mp (List.mem_of_getLast? hlatest)
  obtain ⟨data, hdata⟩ := exists_data htells
  have htold := newest_tells horder hforms hfinds hdata
  cases hnewest : NewestFirst.newest LogPosition.time (visibleLogs id topic0
      (topicQueries contractAddresses (buildTopic1Variants (mirrorNode account []) borrower))
        beforeTimestamp positions) with
  | none =>
      have htells_latest := hdata latest hposition hupdates
      rw [hnewest, hlatest, Option.bind_none, Option.bind_some] at htold
      rw [← htold] at htells_latest
      cases htells_latest
  | some newest =>
      by_contra hne
      have hother : newest ≠ latest := fun heq => hne (congrArg some heq)
      -- the latest update could tell another state than the newest visible log does
      obtain ⟨other, hsome, hdiffers⟩ := (htells latest hposition hupdates).exists_ne
        (stateOf parseLog ⟨newest, data newest⟩)
      have hretold := newest_tells horder hforms hfinds (told_update hdata hsome)
      rw [hnewest, hlatest, Option.bind_some, Option.bind_some, Function.update_self,
        Function.update_of_ne hother] at hretold
      exact hdiffers hretold.symm

/-- Whatever the logs say the previous state is found exactly if the latest update is not whole
weeks before the redemption, its form of the address is searched for, and no other update of
its time is found by an earlier query. -/
theorem findsPrevious_iff (horder : InOrder id positions) (hborrower : borrower ∈ forms)
    (halias : ∀ ecdsaAlias ∈ getEcdsaAlias (mirrorNode account []) borrower, ecdsaAlias ∈ forms)
    (htells : ∀ position ∈ positions, position.Updates topic0 contractAddresses forms →
      TellsStates parseLog position) :
    FindsPrevious parseLog topic0 account contractAddresses forms borrower beforeTimestamp
        positions ↔
      LatestIsFound id topic0 contractAddresses
        (buildTopic1Variants (mirrorNode account []) borrower) forms beforeTimestamp positions := by
  have hforms := forms_of_variants hborrower halias
  constructor
  · intro hfinds
    cases hlatest : (updatesBefore id topic0 contractAddresses forms beforeTimestamp
        positions).getLast? with
    | none =>
        intro latest hmem
        rw [hlatest] at hmem
        cases hmem
    | some latest =>
        have hnewest := newest_eq_some horder hforms htells hfinds hlatest
        exact latestIsFound_of_newest hnewest hlatest
  · rintro hfound chain rfl hparsed
    have hordered : InOrder MirrorLog.toLogPosition chain := by
      rwa [InOrder, List.pairwise_map] at horder
    rw [latestIsFound_map] at hfound
    rw [getPreviousTroveState_eq hordered (parsed_of_updates hforms hparsed)]
    exact congrArg (·.bind (stateOf parseLog)) (newest_eq_latest hordered hforms hfound)

end Finds

/-- A word of the data of a log. -/
def abiWord (data : String) (index : Nat) : Option Nat :=
  bigIntOfHex ((data.toList.drop (2 + 64 * index)).take 64)

/-- The topic of `TroveUpdated`. -/
def troveUpdatedTopic : String :=
  "0xc3770d654ed33aeea6bf11ac8ef05d02a6a04ed4686dd2f624d853bbec43cc8b"

/-- What the interface makes of the debt, the collateral, the stake and the operation of a
`TroveUpdated` log. -/
def parseTroveUpdated : ParseLog := fun topics data =>
  match topics with
  | [topic, borrower] => do
      let debt ← abiWord data 0
      let coll ← abiWord data 1
      let operation ← abiWord data 3
      if topic = troveUpdatedTopic then
        some (.troveUpdated ("0x" ++ String.ofList (borrower.toList.drop 26)) debt coll operation)
      else none
  | _ => none

/-- The digits of the data of a log from those of its words. -/
def abiDigits (words : List (List Char)) : List Char :=
  '0' :: 'x' :: words.flatMap fun word => List.replicate (64 - word.length) '0' ++ word

/-- The trove manager and the borrower operations of a deployment. -/
def deployedContracts : List String :=
  ["0x00000000000000000000000000000000005c9f66", "0x00000000000000000000000000000000005c9f70"]

/-- The long-zero address of account 0.0.1234. -/
def longZeroBorrower : String := "0x00000000000000000000000000000000000004d2"

/-- An update of a borrower's trove that one of the contracts logs. -/
def updateAt (address form : String) (timestamp : ℚ) : LogPosition :=
  ⟨address, some [troveUpdatedTopic, addressToTopic1 form], some timestamp⟩

/-- An adjustment of the borrower's trove at a time. -/
def adjustmentAt (timestamp : ℚ) : LogPosition :=
  updateAt "0x00000000000000000000000000000000005c9f70" longZeroBorrower timestamp

theorem updates_update {contractAddresses forms : List String} {address form : String}
    (timestamp : ℚ) (haddress : address ∈ contractAddresses) (hform : form ∈ forms) :
    (updateAt address form timestamp).Updates troveUpdatedTopic contractAddresses forms :=
  ⟨haddress, rfl, form, hform, rfl⟩

/-- The state that an update tells, by the words of its data. -/
theorem stateOf_update (address form : String) (timestamp : ℚ) {digits : List Char}
    {debt coll operation : Nat}
    (hdebt : bigIntOfHex ((digits.drop 2).take 64) = some debt)
    (hcoll : bigIntOfHex ((digits.drop 66).take 64) = some coll)
    (hoperation : bigIntOfHex ((digits.drop 194).take 64) = some operation) :
    stateOf parseTroveUpdated ⟨updateAt address form timestamp, some (String.ofList digits)⟩ =
      some ⟨.fromBigNumberStringWithPrecision debt 8,
        .fromBigNumberStringWithPrecision coll 8⟩ := by
  have hparsed : parseTroveUpdated [troveUpdatedTopic, addressToTopic1 form]
      (String.ofList digits) = some (.troveUpdated
        ("0x" ++ String.ofList ((addressToTopic1 form).toList.drop 26))
        debt coll operation) := by
    simp only [parseTroveUpdated, abiWord, String.toList_ofList, Nat.mul_zero, Nat.mul_one,
      Nat.reduceMul, Nat.reduceAdd, hdebt, hcoll, hoperation, Option.bind_eq_bind,
      Option.bind_some, if_true]
  simp only [stateOf, parseTroveLog, updateAt, Option.getD_some, hparsed]
  rfl

/-- A debt of 2000 HCHF and a collateral of 100000 HBAR. -/
def adjustedWords : List (List Char) :=
  [['2', 'e', '9', '0', 'e', 'd', 'd', '0', '0', '0'],
    ['9', '1', '8', '4', 'e', '7', '2', 'a', '0', '0', '0'], ['1'], ['2']]

theorem stateOf_adjustedWords (address form : String) (timestamp : ℚ) :
    stateOf parseTroveUpdated
        ⟨updateAt address form timestamp, some (String.ofList (abiDigits adjustedWords))⟩ =
      some ⟨.fromBigNumberStringWithPrecision 200000000000 8,
        .fromBigNumberStringWithPrecision 10000000000000 8⟩ :=
  @stateOf_update address form timestamp _ 200000000000 10000000000000 2 (by decide +kernel)
    (by decide +kernel) (by decide +kernel)

/-- An update could tell of one unit each, too. -/
theorem tellsStates_update (address form : String) (timestamp : ℚ) :
    TellsStates parseTroveUpdated (updateAt address form timestamp) := by
  refine ⟨_, some (String.ofList (abiDigits [['1'], ['1'], ['1'], ['2']])), _, _,
    stateOf_adjustedWords address form timestamp, @stateOf_update address form timestamp _ 1 1 2
      (by decide +kernel) (by decide +kernel) (by decide +kernel), ?_⟩
  decide +kernel

/-- The alias of the borrower. -/
def aliasBorrower : String := "0x7d5a2ef01e39b9ae5b2c3d4e5f60718293a4b5c6"

/-- The mirror node's accounts, of which the borrower's has an alias. -/
def aliasedAccount : String → Option (Option String) := fun accountId =>
  if accountId = "0.0.1234" then some (some aliasBorrower) else none

theorem getEcdsaAlias_aliased :
    getEcdsaAlias (mirrorNode aliasedAccount []) longZeroBorrower = some aliasBorrower := by
  decide +kernel

theorem variants_aliased :
    buildTopic1Variants (mirrorNode aliasedAccount []) longZeroBorrower =
      [addressToTopic1 longZeroBorrower, addressToTopic1 aliasBorrower] := by
  rw [buildTopic1Variants, if_pos (by decide +kernel), getEcdsaAlias_aliased]

/-- Three updates of the borrower, the last two of the same time under different forms of the
address, and a later one of another borrower. -/
def borrowerHistory : List LogPosition :=
  [adjustmentAt 1704700000, adjustmentAt 1705000000,
    updateAt "0x00000000000000000000000000000000005c9f66" aliasBorrower 1705000000,
    updateAt "0x00000000000000000000000000000000005c9f70"
      "0x00000000000000000000000000000000000004d3" 1705900000]

theorem updatesBefore_borrowerHistory :
    updatesBefore id troveUpdatedTopic deployedContracts [longZeroBorrower, aliasBorrower]
      1706000000 borrowerHistory = borrowerHistory.take 3 := by
  decide +kernel

/-- The latest of three updates of the borrower, eleven days before the redemption, is found,
whatever they say: the trove manager logged it under the alias. -/
theorem findsPrevious_borrowerHistory :
    (updatesBefore id troveUpdatedTopic deployedContracts [longZeroBorrower, aliasBorrower]
        1706000000 borrowerHistory).getLast? =
      some (updateAt "0x00000000000000000000000000000000005c9f66" aliasBorrower 1705000000) ∧
      FindsPrevious parseTroveUpdated troveUpdatedTopic aliasedAccount deployedContracts
        [longZeroBorrower, aliasBorrower] longZeroBorrower 1706000000 borrowerHistory := by
  have hlatest : (updatesBefore id troveUpdatedTopic deployedContracts
      [longZeroBorrower, aliasBorrower] 1706000000 borrowerHistory).getLast? =
        some (updateAt "0x00000000000000000000000000000000005c9f66" aliasBorrower 1705000000) := by
    rw [updatesBefore_borrowerHistory]
    rfl
  have horder : InOrder id borrowerHistory := by
    unfold InOrder
    decide +kernel
  refine ⟨hlatest, (findsPrevious_iff horder List.mem_cons_self ?_ ?_).mpr ?_⟩
  · intro ecdsaAlias halias
    rw [getEcdsaAlias_aliased, Option.mem_some_iff] at halias
    exact List.mem_cons_of_mem _ (List.mem_singleton.mpr halias.symm)
  · intro position hposition _
    simp only [borrowerHistory, adjustmentAt, List.mem_cons, List.not_mem_nil, or_false]
      at hposition
    rcases hposition with rfl | rfl | rfl | rfl <;> exact tellsStates_update _ _ _
  · intro latest hmem
    rw [hlatest, Option.mem_some_iff] at hmem
    subst hmem
    refine ⟨by decide +kernel, ?_, ?_⟩
    · rw [variants_aliased]
      exact ⟨_, List.mem_cons_of_mem _ (List.mem_singleton_self _), rfl⟩
    · -- the adjustment of the same time is found by the query for the other contract
      rw [variants_aliased, updatesBefore_borrowerHistory]
      decide +kernel

/-- An adjustment exactly seven days before the redemption is not found. -/
theorem week_before_not_found :
    let log : MirrorLog :=
      ⟨adjustmentAt 1704067300, some (String.ofList (abiDigits adjustedWords))⟩
    stateOf parseTroveUpdated log = some ⟨⟨200000000000⟩, ⟨10000000000000⟩⟩ ∧
      updatesBefore MirrorLog.toLogPosition troveUpdatedTopic deployedContracts [longZeroBorrower]
        1704672100 [log] = [log] ∧
      getPreviousTroveState parseTroveUpdated troveUpdatedTopic (mirrorNode (fun _ => none) [log])
        longZeroBorrower 1704672100 deployedContracts = none ∧
      ¬ FindsPrevious parseTroveUpdated troveUpdatedTopic (fun _ => none) deployedContracts
        [longZeroBorrower] longZeroBorrower 1704672100 [adjustmentAt 1704067300] := by
  intro log
  have hstate : stateOf parseTroveUpdated log = some ⟨⟨200000000000⟩, ⟨10000000000000⟩⟩ :=
    stateOf_adjustedWords _ _ 1704067300
  have hupdates : updatesBefore MirrorLog.toLogPosition troveUpdatedTopic deployedContracts
      [longZeroBorrower] 1704672100 [log] = [log] :=
    List.filter_cons_of_pos (decide_eq_true ⟨updates_update _ (List.mem_cons_of_mem _
      (List.mem_singleton_self _)) (List.mem_singleton_self _), by decide +kernel⟩)
  have hparsed : ∀ found ∈ foundBy MirrorLog.toLogPosition troveUpdatedTopic
      (topicQueries deployedContracts
        (buildTopic1Variants (mirrorNode (fun _ => none) []) longZeroBorrower)) [log],
      (stateOf parseTroveUpdated found).isSome := by
    intro found hfound
    rw [List.mem_singleton.mp (mem_foundBy.mp hfound).1, hstate]
    rfl
  -- the log is at the bound between the two windows
  have hvisible : visibleLogs MirrorLog.toLogPosition troveUpdatedTopic
      (topicQueries deployedContracts
        (buildTopic1Variants (mirrorNode (fun _ => none) []) longZeroBorrower))
      1704672100 [log] = [] := by
    rw [visibleLogs, List.filter_eq_nil_iff]
    intro found hfound
    rw [List.mem_singleton.mp (mem_foundBy.mp hfound).1]
    decide +kernel
  have hsearch : getPreviousTroveState parseTroveUpdated troveUpdatedTopic
      (mirrorNode (fun _ => none) [log]) longZeroBorrower 1704672100 deployedContracts = none := by
    rw [getPreviousTroveState_eq (List.pairwise_singleton _ _) hparsed, hvisible]
    rfl
  refine ⟨hstate, hupdates, hsearch, ?_⟩
  intro hfinds
  have hresult := hfinds [log] rfl fun found hfound _ => by
    rw [List.mem_singleton.mp hfound, hstate]
    rfl
  rw [hsearch, hupdates, List.getLast?_singleton, Option.bind_some, hstate] at hresult
  cases hresult

end HLiquity
