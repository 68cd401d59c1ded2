import HLiquity.BlockSubscription

/-!
# What events do to the listeners

Of all events only subscriptions, the dispatch and the receipts touch the listeners, the
receipts that are being fetched and the deferred calls. The dispatch goes through a copy of
the listeners and has a closed form.
-/

namespace HLiquity.WebSocketAugmentedProvider

variable {Receipt : Type} {this next : WebSocketAugmentedProvider Receipt}

/-- A step that changes no listener, no fetch and no deferred call. -/
structure SameListeners (this next : WebSocketAugmentedProvider Receipt) : Prop where
  blockListeners : next.blockListeners = this.blockListeners
  fetching : next.fetching = this.fetching
  deferred : next.deferred = this.deferred

theorem SameListeners.refl (this : WebSocketAugmentedProvider Receipt) : SameListeners this this :=
  ⟨rfl, rfl, rfl⟩

theorem SameListeners.trans {last : WebSocketAugmentedProvider Receipt}
    (h : SameListeners this next) (hnext : SameListeners next last) : SameListeners this last where
  blockListeners := hnext.blockListeners.trans h.blockListeners
  fetching := hnext.fetching.trans h.fetching
  deferred := hnext.deferred.trans h.deferred

theorem sameListeners_onBlock (blockNumber times : Nat) :
    SameListeners this ((onBlock blockNumber)^[times] this) := by
  induction times generalizing this with
  | zero => exact .refl this
  | succ times ih =>
      have hone : SameListeners this (onBlock blockNumber this) := by
        simp only [onBlock]
        split <;> exact ⟨rfl, rfl, rfl⟩
      exact hone.trans ih

theorem sameListeners_switchover (this : WebSocketAugmentedProvider Receipt) :
    SameListeners this this.switchover := by
  unfold switchover
  split
  · split <;> exact ⟨rfl, rfl, rfl⟩
  · exact .refl this

theorem sameListeners_openWebSocket (this : WebSocketAugmentedProvider Receipt)
    (url network : String) : SameListeners this (this.openWebSocket url network) := by
  have hswitched := sameListeners_switchover { this with
    wsProvider := some this.webSockets
    webSockets := this.webSockets + 1
    onClose := this.onClose ++ [this.webSockets]
    wsParams := some (url, network) }
  exact ⟨hswitched.blockListeners, hswitched.fetching, hswitched.deferred⟩

theorem sameListeners_closeWebSocket (this : WebSocketAugmentedProvider Receipt) :
    SameListeners this this.closeWebSocket := by
  unfold closeWebSocket
  cases this.wsProvider with
  | none => exact .refl this
  | some number =>
      have hswitched := sameListeners_switchover { this with
        onClose := this.onClose.erase number
        wsProvider := none }
      dsimp only
      split <;> exact ⟨hswitched.blockListeners, hswitched.fetching, hswitched.deferred⟩

/-- The events that neither subscribe, nor dispatch, nor bring a receipt. -/
def LeavesListeners : Event Receipt → Prop
  | .block _ _ | .openWebSocket _ _ | .closeWebSocket | .closed _ | .reconnect _ => True
  | _ => False

theorem sameListeners_step {event : Event Receipt} (h : LeavesListeners event) :
    SameListeners this (this.step event) := by
  cases event with
  | block source blockNumber => exact sameListeners_onBlock blockNumber _
  | openWebSocket url network => exact sameListeners_openWebSocket this url network
  | closeWebSocket => exact sameListeners_closeWebSocket this
  | closed number =>
      simp only [step]
      split
      · have hclosed := sameListeners_closeWebSocket this
        exact ⟨hclosed.blockListeners, hclosed.fetching, hclosed.deferred⟩
      · exact .refl this
  | reconnect timerId =>
      simp only [step]
      split
      · split
        · rename_i url network _
          have hopened := sameListeners_openWebSocket
            { this with timers := this.timers.erase timerId } url network
          exact ⟨hopened.blockListeners, hopened.fetching, hopened.deferred⟩
        · exact ⟨rfl, rfl, rfl⟩
      · exact .refl this
  | on | once | off | dispatch | fetched | failed => exact h.elim

theorem addBlockListener_effect (this : WebSocketAugmentedProvider Receipt) (key : Nat)
    (blockListener : BlockListener) :
    (this.addBlockListener key blockListener).blockListeners =
        (if this.has key then this.blockListeners
          else this.blockListeners ++ [(key, blockListener)]) ∧
      (this.addBlockListener key blockListener).fetching = this.fetching ∧
      (this.addBlockListener key blockListener).deferred = this.deferred := by
  unfold addBlockListener
  cases this.has key with
  | true => exact ⟨rfl, rfl, rfl⟩
  | false =>
      simp only [Bool.not_false, if_true]
      split <;> exact ⟨rfl, rfl, rfl⟩

theorem removeMe_of_not_has {key : Nat} (h : this.has key = false) :
    (this.removeMe key).blockListeners = this.blockListeners := by
  apply List.filter_eq_self.mpr
  intro entry hentry
  rw [bne_iff_ne]
  rintro rfl
  have hhas := has_iff.mpr ⟨entry, hentry, rfl⟩
  rw [h] at hhas
  cases hhas

theorem removeBlockListener_effect (this : WebSocketAugmentedProvider Receipt) (key : Nat) :
    (this.removeBlockListener key).blockListeners = (this.removeMe key).blockListeners ∧
      (this.removeBlockListener key).fetching = this.fetching ∧
      (this.removeBlockListener key).deferred = this.deferred := by
  unfold removeBlockListener
  cases hkey : this.has key with
  | true =>
      simp only [if_true]
      split <;> exact ⟨rfl, rfl, rfl⟩
  | false => exact ⟨(removeMe_of_not_has hkey).symm, rfl, rfl⟩

theorem has_removeMe {key other : Nat} :
    (this.removeMe key).has other = true ↔ this.has other = true ∧ other ≠ key := by
  rw [has_iff, has_iff]
  simp only [removeMe, List.mem_filter, bne_iff_ne]
  constructor
  · rintro ⟨entry, ⟨hentry, hne⟩, rfl⟩
    exact ⟨⟨entry, hentry, rfl⟩, hne⟩
  · rintro ⟨⟨entry, hentry, rfl⟩, hne⟩
    exact ⟨entry, ⟨hentry, hne⟩, rfl⟩

/-- A function has one entry. -/
def Keyed (this : WebSocketAugmentedProvider Receipt) : Prop :=
  (this.blockListeners.map Prod.fst).Nodup

theorem keyed_of_sublist (h : this.Keyed)
    (hsublist : next.blockListeners.Sublist this.blockListeners) : next.Keyed :=
  List.Nodup.sublist (hsublist.map Prod.fst) h

theorem keyed_addBlockListener (h : this.Keyed) (key : Nat) (blockListener : BlockListener) :
    (this.addBlockListener key blockListener).Keyed := by
  rw [Keyed, (addBlockListener_effect this key blockListener).1]
  cases hkey : this.has key with
  | true => exact h
  | false =>
      rw [if_neg Bool.false_ne_true]
      exact nodup_keys_append h hkey blockListener

theorem keyed_removeBlockListener (h : this.Keyed) (key : Nat) :
    (this.removeBlockListener key).Keyed := by
  apply keyed_of_sublist h
  rw [(removeBlockListener_effect this key).1]
  exact List.filter_sublist

/-- The block that a listener is passed. -/
def passedBlock (blockNumber : Nat) (entry : Nat × BlockListener) :
    Option (Nat × Notification Receipt) :=
  match entry.2 with
  | .pass | .passOnce => some (entry.1, .block blockNumber)
  | .passReceipt _ | .passReceiptOnce _ => none

/-- The receipt that is fetched for a listener at a block. -/
def startedFetch (blockNumber : Nat) (entry : Nat × BlockListener) : Option ReceiptFetch :=
  match entry.2 with
  | .pass | .passOnce => none
  | .passReceipt hash => some ⟨entry.1, hash, some blockNumber, false⟩
  | .passReceiptOnce hash => some ⟨entry.1, hash, some blockNumber, true⟩

/-- Calling listeners adds their blocks and fetches in order. -/
theorem foldl_callListener_effect (blockNumber : Nat) (entries : List (Nat × BlockListener)) :
    (entries.foldl (callListener blockNumber) this).deferred =
        this.deferred ++ entries.filterMap (passedBlock blockNumber) ∧
      (entries.foldl (callListener blockNumber) this).fetching =
        this.fetching ++ entries.filterMap (startedFetch blockNumber) := by
  induction entries generalizing this with
  | nil => simp
  | cons entry entries ih =>
      obtain ⟨hdeferred, hfetching⟩ := @ih (callListener blockNumber this entry)
      rw [List.foldl_cons, hdeferred, hfetching]
      obtain ⟨key, kind⟩ := entry
      cases kind <;>
        simp [callListener, passedBlock, startedFetch, defer, removeMe, fetchReceipt,
          List.filterMap_cons]

/-- Calling listeners keeps those that none of the calls removes. -/
theorem foldl_callListener_blockListeners (blockNumber : Nat)
    (entries : List (Nat × BlockListener)) :
    (entries.foldl (callListener blockNumber) this).blockListeners =
      this.blockListeners.filter fun entry =>
        entries.all fun called => called.2 != .passOnce || entry.1 != called.1 := by
  induction entries generalizing this with
  | nil => simp
  | cons called entries ih =>
      rw [List.foldl_cons, ih]
      obtain ⟨key, kind⟩ := called
      cases kind with
      | passOnce =>
          change ((this.blockListeners.filter fun entry => entry.1 != key).filter _) = _
          rw [List.filter_filter]
          apply List.filter_congr
          intro entry _
          simp [Bool.and_comm]
      | _ =>
          apply List.filter_congr
          intro entry _
          rw [List.all_cons, bne_iff_ne.mpr (by simp), Bool.true_or, Bool.true_and]

/-- A dispatch passes the block to all that listen for one, fetches for all others and
removes those that listen once. -/
theorem dispatch_effect (h : this.Keyed) :
    this.dispatch.blockListeners = this.blockListeners.filter (fun entry => entry.2 != .passOnce) ∧
      this.dispatch.fetching =
        this.fetching ++ this.blockListeners.filterMap (startedFetch this.seenBlock) ∧
      this.dispatch.deferred =
        this.deferred ++ this.blockListeners.filterMap (passedBlock this.seenBlock) := by
  obtain ⟨hdeferred, hfetching⟩ := @foldl_callListener_effect _
    { this with blockListenerScheduled := false } this.seenBlock this.blockListeners
  refine ⟨?_, hfetching, hdeferred⟩
  unfold dispatch
  rw [foldl_callListener_blockListeners]
  apply List.filter_congr
  intro entry hentry
  rw [Bool.eq_iff_iff, List.all_eq_true]
  simp only [Bool.or_eq_true, bne_iff_ne]
  constructor
  · intro hkept
    exact (hkept entry hentry).resolve_right fun hne => hne rfl
  · intro hkind called hcalled
    by_cases hkey : entry.1 = called.1
    · -- a function has one entry
      have hsame : entry = called := List.inj_on_of_nodup_map h hentry hcalled hkey
      exact .inl (hsame ▸ hkind)
    · exact .inr hkey

/-- Blocks are reported while there are listeners. -/
def Reports (this : WebSocketAugmentedProvider Receipt) : Prop :=
  this.blockListeners ≠ [] → 0 < this.registrations this.active

theorem reports_startBlockEvents (this : WebSocketAugmentedProvider Receipt) :
    this.startBlockEvents.Reports := by
  intro _
  change 0 < Function.update this.registrations this.active _ this.active
  rw [Function.update_self]
  exact Nat.succ_pos _

theorem OnlyRemoves.reports (h : OnlyRemoves this next) (hthis : this.Reports) : next.Reports := by
  intro hlisteners
  rw [h.active_eq, h.registrations]
  apply hthis
  intro hempty
  have hsublist := h.blockListeners
  rw [hempty, List.sublist_nil] at hsublist
  exact hlisteners hsublist

theorem reports_switchover (this : WebSocketAugmentedProvider Receipt) :
    this.switchover.Reports := by
  unfold switchover
  by_cases hlisteners : this.blockListeners.length > 0
  · rw [if_pos hlisteners]
    split <;> exact reports_startBlockEvents _
  · rw [if_neg hlisteners]
    exact fun hne => absurd (List.length_pos_iff.mpr hne) hlisteners

theorem reports_closeWebSocket (h : this.Reports) : this.closeWebSocket.Reports := by
  unfold closeWebSocket
  cases this.wsProvider with
  | none => exact h
  | some number =>
      have hswitched := reports_switchover { this with
        onClose := this.onClose.erase number
        wsProvider := none }
      dsimp only
      split <;> exact hswitched

theorem reports_addBlockListener (h : this.Reports) (key : Nat) (blockListener : BlockListener) :
    (this.addBlockListener key blockListener).Reports := by
  unfold addBlockListener
  cases this.has key with
  | true => exact h
  | false =>
      simp only [Bool.not_false, if_true]
      split
      · exact reports_startBlockEvents _
      · rename_i hmore
        intro _
        apply h
        rintro hempty
        rw [hempty] at hmore
        exact hmore rfl

theorem reports_removeBlockListener (h : this.Reports) (key : Nat) :
    (this.removeBlockListener key).Reports := by
  unfold removeBlockListener
  have hremoves : OnlyRemoves this (this.removeMe key) := ⟨rfl, rfl, rfl, List.filter_sublist⟩
  split
  · dsimp only
    split
    · rename_i hempty
      exact fun hne => absurd (List.length_eq_zero_iff.mp hempty) hne
    · exact hremoves.reports h
  · exact h

theorem reports_passReceipt (h : this.Reports) (fetch : ReceiptFetch)
    (receipt : Option Receipt) : (this.passReceipt fetch receipt).Reports := by
  cases receipt with
  | none => exact h
  | some receipt =>
      simp only [passReceipt]
      split
      · split
        · have hremoves : OnlyRemoves this
              ((this.defer fetch.key (.receipt receipt)).removeMe fetch.key) :=
            ⟨rfl, rfl, rfl, List.filter_sublist⟩
          exact hremoves.reports h
        · exact h
      · exact h

/-- While there are listeners, blocks are reported, whatever happens. -/
theorem reports_step (h : this.Reports) (event : Event Receipt) : (this.step event).Reports := by
  cases event with
  | on eventName listener =>
      cases eventName with
      | block => exact reports_addBlockListener h listener _
      | transactionHash hash =>
          exact @reports_addBlockListener _ (this.fetchReceipt _) h listener _
  | once eventName listener =>
      cases eventName with
      | block => exact reports_addBlockListener h listener _
      | transactionHash hash =>
          exact @reports_addBlockListener _ (this.fetchReceipt _) h listener _
  | off eventName listener => exact reports_removeBlockListener h listener
  | block source blockNumber => exact (onlyRemoves_onBlock blockNumber _).1.reports h
  | dispatch =>
      simp only [step]
      split
      · have hunscheduled : OnlyRemoves this { this with blockListenerScheduled := false } :=
          ⟨rfl, rfl, rfl, .refl _⟩
        exact (hunscheduled.trans (onlyRemoves_foldl _ _)).reports h
      · exact h
  | fetched index receipt =>
      simp only [step]
      split
      · exact h
      · exact @reports_passReceipt _ { this with fetching := this.fetching.eraseIdx index } h _
          receipt
  | failed index => exact h
  | openWebSocket url network => exact reports_switchover _
  | closeWebSocket => exact reports_closeWebSocket h
  | closed number =>
      simp only [step]
      split
      · exact reports_closeWebSocket h
      · exact h
  | reconnect timerId =>
      simp only [step]
      split
      · split
        · exact reports_switchover _
        · exact h
      · exact h

theorem keyed_passReceipt (h : this.Keyed) (fetch : ReceiptFetch) (receipt : Option Receipt) :
    (this.passReceipt fetch receipt).Keyed := by
  cases receipt with
  | none => exact h
  | some receipt =>
      simp only [passReceipt]
      split
      · split
        · exact keyed_of_sublist h List.filter_sublist
        · exact h
      · exact h

theorem keyed_step (h : this.Keyed) (event : Event Receipt) : (this.step event).Keyed := by
  have hleaves (hleaves : LeavesListeners event) : (this.step event).Keyed := by
    rw [Keyed, (sameListeners_step hleaves).blockListeners]
    exact h
  cases event with
  | on eventName listener =>
      cases eventName with
      | block => exact keyed_addBlockListener h listener _
      | transactionHash hash =>
          exact @keyed_addBlockListener _ (this.fetchReceipt _) h listener _
  | once eventName listener =>
      cases eventName with
      | block => exact keyed_addBlockListener h listener _
      | transactionHash hash =>
          exact @keyed_addBlockListener _ (this.fetchReceipt _) h listener _
  | off eventName listener => exact keyed_removeBlockListener h listener
  | dispatch =>
      simp only [step]
      split
      · apply keyed_of_sublist h
        rw [(dispatch_effect h).1]
        exact List.filter_sublist
      · exact h
  | fetched index receipt =>
      simp only [step]
      split
      · exact h
      · exact @keyed_passReceipt _ { this with fetching := this.fetching.eraseIdx index } h _
          receipt
  | failed => exact h
  | block | openWebSocket | closeWebSocket | closed | reconnect => exact hleaves trivial

end HLiquity.WebSocketAugmentedProvider
