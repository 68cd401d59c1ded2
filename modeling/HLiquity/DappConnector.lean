import HLiquity.FrontendSession
import HLiquity.Library.EventRun

/-!
# The connector of Hedera wallets

Each chain that is selected gets a connector of its own. A connector can be destroyed only once
it is initialised, and whatever is awaited for it writes the state of the provider when it is
answered, so a connector that is replaced meanwhile is left behind. In the app the chain is
selected among the children of the provider, which are rendered only with an initialised
connector: there, only the requests of a wallet outlive their connector.
-/

namespace HLiquity

inductive LedgerId where
  | mainnet
  | testnet
  | previewnet
  | other (text : Text)
  deriving DecidableEq, Repr

def LedgerId.toString : LedgerId → Text
  | mainnet => "mainnet".toList
  | testnet => "testnet".toList
  | previewnet => "previewnet".toList
  | other text => text

/-- The networks that a connector can be constructed for. -/
inductive HederaChainId where
  | mainnet
  | testnet
  | previewnet
  | devnet
  deriving DecidableEq, Repr

/-- A chain of the configuration, with its ledger. -/
structure ConfiguredChain extends HederaChain where
  ledgerId : LedgerId
  deriving DecidableEq, Repr

namespace ConfiguredChain

theorem testnet_id_lt : 0x128 < 2 ^ 53 := by decide

theorem previewnet_id_lt : 0x129 < 2 ^ 53 := by decide

theorem mainnet_id_lt : 0x127 < 2 ^ 53 := by decide

def testnet : ConfiguredChain := ⟨⟨0x128, testnet_id_lt⟩, .testnet⟩

def previewnet : ConfiguredChain := ⟨⟨0x129, previewnet_id_lt⟩, .previewnet⟩

def mainnet : ConfiguredChain := ⟨⟨0x127, mainnet_id_lt⟩, .mainnet⟩

def chains : List ConfiguredChain := [mainnet, previewnet, testnet]

end ConfiguredChain

open ConfiguredChain (chains)

def getHederaChainId (chainId : Nat) : HederaChainId :=
  match chainId with
  | 296 => .mainnet
  | 297 => .previewnet
  | 298 => .devnet
  | _ => .mainnet

/-- A session: an account of a wallet. -/
structure HederaDappConnectorSession where
  userAccountId : Text
  userAccountEvmAddress : Text
  ledgerId : LedgerId
  deriving DecidableEq, Repr

/-- The account and the chain that `getSessionFromStruct` reads in the accounts of a session. -/
def getAccountFromStruct (accounts : List Text) : Option (Text × ConfiguredChain) := do
  let sessionAccount ← accounts.head?
  let sessionParts := sessionAccount.splitOn ':'
  let userAccountIdString ← sessionParts.getLast?
  let network ← sessionParts.dropLast.getLast?
  if userAccountIdString = [] ∨ network = [] then
    none
  else
    let chain ← chains.find? fun chain => chain.ledgerId.toString = network
    return (userAccountIdString, chain)

/-- The account of a wallet that was connected before the page was loaded. -/
structure Signer where
  accountId : Text
  ledgerId : LedgerId
  deriving DecidableEq, Repr

structure DappConnectorInputs where
  walletConnectProjectId : String
  selectedChain : ConfiguredChain
  enabledChainIds : List Nat
  deriving DecidableEq, Repr

/-- What a connector is constructed with. -/
structure DappConnectorOptions where
  walletConnectProjectId : String
  ledgerId : LedgerId
  enabledChainIds : List HederaChainId
  deriving DecidableEq, Repr

def DappConnectorInputs.options (inputs : DappConnectorInputs) : DappConnectorOptions where
  walletConnectProjectId := inputs.walletConnectProjectId
  ledgerId := inputs.selectedChain.ledgerId
  enabledChainIds := inputs.enabledChainIds.map getHederaChainId

/-- What is awaited: an initialisation, the addresses of accounts, a session that the user
approves in a wallet, or the end of all sessions. -/
inductive DappConnectorAwait where
  | init
  | existingAccount (signer : Signer)
  | sessionAccount (userAccountId : Text) (chain : ConfiguredChain)
  | connect
  | disconnectAll
  deriving DecidableEq, Repr

/-- The awaits of `initializeDappConnector`. -/
def DappConnectorAwait.initializes : DappConnectorAwait → Bool
  | init | existingAccount _ => true
  | _ => false

inductive DappConnectorAnswer where
  | initialized (signers : List Signer)
  | address (evmAddress : Option Text)
  | session (accounts : List Text)
  | disconnected
  | rejected (error : String)
  deriving DecidableEq, Repr

structure PendingAwait where
  connector : Nat
  await : DappConnectorAwait
  deriving DecidableEq, Repr

/-- The connector of an initialisation that is awaited. -/
def PendingAwait.initializing (pending : PendingAwait) : List Nat :=
  if pending.await.initializes then [pending.connector] else []

/-- The state of the provider. Connectors are told apart by numbers; the last one is that of the
inputs. A session is kept with the connector that it is of. -/
structure HederaDappConnectorProvider where
  replaced : List DappConnectorOptions
  inputs : DappConnectorInputs
  currentDestroy : Bool
  dappConnector : Option Nat
  session : Option (Nat × HederaDappConnectorSession)
  dappConnectorError : Option String
  pending : List PendingAwait
  onSessionIframeCreated : List Nat
  sessionDeleteListeners : List Nat
  deriving DecidableEq, Repr

/-- A render, an answer to what is awaited, an event of a wallet, or a press of a button. -/
inductive DappConnectorEvent where
  | render (inputs : DappConnectorInputs)
  | answered (position : Nat) (answer : DappConnectorAnswer)
  | sessionIframeCreated (connector : Nat) (accounts : List Text)
  | sessionDeleted (connector : Nat)
  | connect
  | disconnect
  deriving DecidableEq, Repr

namespace HederaDappConnectorProvider

/-- The number of the connector of the last run of the effect. -/
def current (this : HederaDappConnectorProvider) : Nat := this.replaced.length

/-- The options of a connector. -/
def options (this : HederaDappConnectorProvider) (connector : Nat) :
    Option DappConnectorOptions :=
  (this.replaced ++ [this.inputs.options])[connector]?

@[simp] theorem options_current (this : HederaDappConnectorProvider) :
    this.options this.current = some this.inputs.options := by
  simp [options, current]

/-- The first render and its effect. -/
def mount (inputs : DappConnectorInputs) : HederaDappConnectorProvider where
  replaced := []
  inputs := inputs
  currentDestroy := false
  dappConnector := none
  session := none
  dappConnectorError := none
  pending := [⟨0, .init⟩]
  onSessionIframeCreated := [0]
  sessionDeleteListeners := []

/-- `destroy`, as returned for a connector. -/
def destroy (this : HederaDappConnectorProvider) (connector : Nat) :
    HederaDappConnectorProvider :=
  { this with
    onSessionIframeCreated := this.onSessionIframeCreated.filter (· != connector)
    sessionDeleteListeners := this.sessionDeleteListeners.filter (· != connector)
    dappConnector := none
    session := none
    dappConnectorError := none }

/-- The clean-up of the effect. -/
def cleanUp (this : HederaDappConnectorProvider) : HederaDappConnectorProvider :=
  if this.currentDestroy then this.destroy this.current else this

/-- The effect, up to its first await. -/
def effect (this : HederaDappConnectorProvider) (inputs : DappConnectorInputs) :
    HederaDappConnectorProvider :=
  { this with
    replaced := this.replaced ++ [this.inputs.options]
    inputs := inputs
    currentDestroy := false
    pending := this.pending ++ [⟨this.current + 1, .init⟩]
    onSessionIframeCreated := this.onSessionIframeCreated ++ [this.current + 1] }

def render (this : HederaDappConnectorProvider) (inputs : DappConnectorInputs) :
    HederaDappConnectorProvider :=
  if inputs = this.inputs then this else this.cleanUp.effect inputs

def setSession (this : HederaDappConnectorProvider) (connector : Nat)
    (session : Option HederaDappConnectorSession) : HederaDappConnectorProvider :=
  { this with session := session.map fun session => (connector, session) }

def await (this : HederaDappConnectorProvider) (connector : Nat) (await : DappConnectorAwait) :
    HederaDappConnectorProvider :=
  { this with pending := this.pending ++ [⟨connector, await⟩] }

/-- The end of `initializeDappConnector` and of the effect. The effect of a replaced connector
sets a `currentDestroy` that no clean-up reads any more. -/
def provide (this : HederaDappConnectorProvider) (connector : Nat) :
    HederaDappConnectorProvider :=
  { this with
    currentDestroy := this.currentDestroy || connector == this.current
    dappConnector := some connector
    sessionDeleteListeners := this.sessionDeleteListeners ++ [connector] }

/-- The `catch` of the effect. -/
def fail (this : HederaDappConnectorProvider) (error : String) : HederaDappConnectorProvider :=
  { this with dappConnector := none, dappConnectorError := some error }

/-- `getSessionFromStruct` and the call of `setSession` after it, up to the first await. -/
def receive (this : HederaDappConnectorProvider) (connector : Nat) (accounts : List Text) :
    HederaDappConnectorProvider :=
  match getAccountFromStruct accounts with
  | none => this.setSession connector none
  | some (userAccountId, chain) => this.await connector (.sessionAccount userAccountId chain)

/-- `userAccountEvmAddress`, where it is truthy. -/
def truthyAddress (evmAddress : Option Text) : Option Text := evmAddress.filter (· ≠ [])

/-- What happens after an await, if the answer is one of it. The text of an account may be
refused by the library, which rejects the session after the answer for its address. -/
def resume (this : HederaDappConnectorProvider) (connector : Nat) :
    DappConnectorAwait → DappConnectorAnswer → Option HederaDappConnectorProvider
  | .init, .initialized [] => some (this.provide connector)
  | .init, .initialized (signer :: _) => some (this.await connector (.existingAccount signer))
  | .init, .rejected error => some (this.fail error)
  | .existingAccount signer, .address evmAddress =>
      match truthyAddress evmAddress with
      | none => some (this.provide connector)
      | some address =>
          some ((this.setSession connector
            (some ⟨signer.accountId, address, signer.ledgerId⟩)).provide connector)
  | .sessionAccount userAccountId chain, .address evmAddress =>
      some (this.setSession connector ((truthyAddress evmAddress).map fun address =>
        ⟨userAccountId, address, chain.ledgerId⟩))
  | .sessionAccount _ _, .rejected _ => some this
  | .connect, .session accounts => some (this.receive connector accounts)
  | .connect, .rejected _ => some this
  | .disconnectAll, .disconnected => some (this.setSession connector none)
  | .disconnectAll, .rejected _ => some this
  | _, _ => none

def answered (this : HederaDappConnectorProvider) (position : Nat)
    (answer : DappConnectorAnswer) : HederaDappConnectorProvider :=
  match this.pending[position]? with
  | none => this
  | some ⟨connector, await⟩ =>
      ({ this with pending := this.pending.eraseIdx position }.resume connector await
        answer).getD this

/-- The connector that the children are rendered with. An error is shown in their place. -/
def shown (this : HederaDappConnectorProvider) : Option Nat :=
  match this.dappConnectorError with
  | some _ => none
  | none => this.dappConnector

def step (this : HederaDappConnectorProvider) :
    DappConnectorEvent → HederaDappConnectorProvider
  | .render inputs => this.render inputs
  | .answered position answer => this.answered position answer
  | .sessionIframeCreated connector accounts =>
      if connector ∈ this.onSessionIframeCreated then this.receive connector accounts else this
  | .sessionDeleted connector =>
      if connector ∈ this.sessionDeleteListeners then { this with session := none } else this
  | .connect =>
      match this.shown with
      | none => this
      | some connector => this.await connector .connect
  | .disconnect =>
      match this.shown with
      | none => this
      | some connector => this.await connector .disconnectAll

section Replaced

variable {this : HederaDappConnectorProvider} {connector : Nat}

/-- Something of a connector is awaited. -/
def Awaits (this : HederaDappConnectorProvider) (connector : Nat) : Prop :=
  ∃ pending ∈ this.pending, pending.connector = connector

/-- The ways in which a connector takes part in what the provider shows. -/
inductive Interferes (this : HederaDappConnectorProvider) (connector : Nat) : Prop where
  | provided (h : this.dappConnector = some connector)
  | created (h : connector ∈ this.onSessionIframeCreated)
  | deleted (h : connector ∈ this.sessionDeleteListeners)
  | awaits (h : this.Awaits connector)
  | session (session : HederaDappConnectorSession) (h : this.session = some (connector, session))

/-- An event makes the effect run again, and so replaces a connector. -/
def Replaces (connector : Nat) (this : HederaDappConnectorProvider)
    (event : DappConnectorEvent) : Prop :=
  this.current = connector ∧ ∃ inputs, event = .render inputs ∧ inputs ≠ this.inputs

theorem Awaits.await {number : Nat} {await : DappConnectorAwait}
    (h : (this.await number await).Awaits connector) :
    number = connector ∨ this.Awaits connector := by
  obtain ⟨pending, hmem, hconnector⟩ := h
  rcases List.mem_append.mp hmem with hold | hnew
  · exact .inr ⟨pending, hold, hconnector⟩
  · rw [List.mem_singleton.mp hnew] at hconnector
    exact .inl hconnector

/-- A further await gives its own connector something to do, and no other. -/
theorem Interferes.of_await {number : Nat} {await : DappConnectorAwait}
    (h : (this.await number await).Interferes connector) :
    number = connector ∨ this.Interferes connector := by
  cases h with
  | provided h => exact .inr (.provided h)
  | created h => exact .inr (.created h)
  | deleted h => exact .inr (.deleted h)
  | awaits h => exact h.await.imp_right .awaits
  | session session h => exact .inr (.session session h)

theorem Interferes.of_setSession {number : Nat} {session : Option HederaDappConnectorSession}
    (h : (this.setSession number session).Interferes connector) :
    number = connector ∨ this.Interferes connector := by
  cases h with
  | provided h => exact .inr (.provided h)
  | created h => exact .inr (.created h)
  | deleted h => exact .inr (.deleted h)
  | awaits h => exact .inr (.awaits h)
  | session other h =>
      obtain ⟨_, _, hpair⟩ := Option.map_eq_some_iff.mp h
      exact .inl (congrArg Prod.fst hpair)

theorem Interferes.of_provide {number : Nat}
    (h : (this.provide number).Interferes connector) :
    number = connector ∨ this.Interferes connector := by
  cases h with
  | provided h => exact .inl (Option.some.inj h)
  | created h => exact .inr (.created h)
  | deleted h =>
      rcases List.mem_append.mp h with hold | hnew
      · exact .inr (.deleted hold)
      · exact .inl (List.mem_singleton.mp hnew).symm
  | awaits h => exact .inr (.awaits h)
  | session session h => exact .inr (.session session h)

theorem Interferes.of_fail {error : String} (h : (this.fail error).Interferes connector) :
    this.Interferes connector := by
  cases h with
  | provided h => cases h
  | created h => exact .created h
  | deleted h => exact .deleted h
  | awaits h => exact .awaits h
  | session session h => exact .session session h

theorem Interferes.of_receive {number : Nat} {accounts : List Text}
    (h : (this.receive number accounts).Interferes connector) :
    number = connector ∨ this.Interferes connector := by
  unfold receive at h
  split at h
  · exact h.of_setSession
  · exact h.of_await

/-- What follows an await is done for its connector. -/
theorem Interferes.of_resume {number : Nat} {await : DappConnectorAwait}
    {answer : DappConnectorAnswer} {next : HederaDappConnectorProvider}
    (hresume : this.resume number await answer = some next) (h : next.Interferes connector) :
    number = connector ∨ this.Interferes connector := by
  unfold resume at hresume
  split at hresume
  · cases hresume
    exact h.of_provide
  · cases hresume
    exact h.of_await
  · cases hresume
    exact .inr h.of_fail
  · split at hresume
    · cases hresume
      exact h.of_provide
    · cases hresume
      rcases h.of_provide with hown | hsession
      · exact .inl hown
      · exact hsession.of_setSession
  · cases hresume
    exact h.of_setSession
  · cases hresume
    exact .inr h
  · cases hresume
    exact h.of_receive
  · cases hresume
    exact .inr h
  · cases hresume
    exact h.of_setSession
  · cases hresume
    exact .inr h
  · cases hresume

theorem Interferes.of_erase {position : Nat}
    (h : Interferes { this with pending := this.pending.eraseIdx position } connector) :
    this.Interferes connector := by
  cases h with
  | provided h => exact .provided h
  | created h => exact .created h
  | deleted h => exact .deleted h
  | awaits h =>
      obtain ⟨pending, hmem, hconnector⟩ := h
      exact .awaits ⟨pending, List.mem_of_mem_eraseIdx hmem, hconnector⟩
  | session session h => exact .session session h

theorem Interferes.of_answered {position : Nat} {answer : DappConnectorAnswer}
    (h : (this.answered position answer).Interferes connector) : this.Interferes connector := by
  unfold answered at h
  split at h
  · exact h
  · next number await hpending =>
      cases hresume : ({ this with pending := this.pending.eraseIdx position }.resume number await
        answer) with
      | none =>
          rw [hresume] at h
          exact h
      | some next =>
          rw [hresume] at h
          rcases h.of_resume hresume with rfl | hbefore
          · exact .awaits ⟨⟨number, await⟩, List.mem_of_getElem? hpending, rfl⟩
          · exact hbefore.of_erase

theorem provided_of_shown {number : Nat} (h : this.shown = some number) :
    this.dappConnector = some number := by
  unfold shown at h
  split at h
  · cases h
  · exact h

/-- Nothing but the effect brings a connector into play. -/
theorem Interferes.of_step {event : DappConnectorEvent}
    (hrender : ∀ inputs, event ≠ .render inputs)
    (h : (this.step event).Interferes connector) : this.Interferes connector := by
  cases event with
  | render inputs => exact absurd rfl (hrender inputs)
  | answered position answer => exact h.of_answered
  | sessionIframeCreated number accounts =>
      dsimp only [step] at h
      split at h
      · next hmem =>
          rcases h.of_receive with rfl | hbefore
          · exact .created hmem
          · exact hbefore
      · exact h
  | sessionDeleted number =>
      dsimp only [step] at h
      split at h
      · cases h with
        | provided h => exact .provided h
        | created h => exact .created h
        | deleted h => exact .deleted h
        | awaits h => exact .awaits h
        | session session h => cases h
      · exact h
  | connect =>
      dsimp only [step] at h
      split at h
      · exact h
      · next number hshown =>
          rcases h.of_await with rfl | hbefore
          · exact .provided (provided_of_shown hshown)
          · exact hbefore
  | disconnect =>
      dsimp only [step] at h
      split at h
      · exact h
      · next number hshown =>
          rcases h.of_await with rfl | hbefore
          · exact .provided (provided_of_shown hshown)
          · exact hbefore

/-- What only the effect changes. -/
structure SameEffect (this next : HederaDappConnectorProvider) : Prop where
  replaced : next.replaced = this.replaced
  inputs : next.inputs = this.inputs
  created : next.onSessionIframeCreated = this.onSessionIframeCreated

theorem sameEffect_receive (number : Nat) (accounts : List Text) :
    SameEffect this (this.receive number accounts) := by
  unfold receive
  split
  · exact ⟨rfl, rfl, rfl⟩
  · exact ⟨rfl, rfl, rfl⟩

theorem sameEffect_resume {number : Nat} {await : DappConnectorAwait}
    {answer : DappConnectorAnswer} {next : HederaDappConnectorProvider}
    (h : this.resume number await answer = some next) : SameEffect this next := by
  unfold resume at h
  split at h
  · cases h
    exact ⟨rfl, rfl, rfl⟩
  · cases h
    exact ⟨rfl, rfl, rfl⟩
  · cases h
    exact ⟨rfl, rfl, rfl⟩
  · split at h
    · cases h
      exact ⟨rfl, rfl, rfl⟩
    · cases h
      exact ⟨rfl, rfl, rfl⟩
  · cases h
    exact ⟨rfl, rfl, rfl⟩
  · cases h
    exact ⟨rfl, rfl, rfl⟩
  · cases h
    exact sameEffect_receive _ _
  · cases h
    exact ⟨rfl, rfl, rfl⟩
  · cases h
    exact ⟨rfl, rfl, rfl⟩
  · cases h
    exact ⟨rfl, rfl, rfl⟩
  · cases h

theorem sameEffect_step {event : DappConnectorEvent}
    (hrender : ∀ inputs, event ≠ .render inputs) : SameEffect this (this.step event) := by
  cases event with
  | render inputs => exact absurd rfl (hrender inputs)
  | answered position answer =>
      dsimp only [step]
      unfold answered
      split
      · exact ⟨rfl, rfl, rfl⟩
      · next number await _ =>
          cases hresume : ({ this with pending := this.pending.eraseIdx position }.resume number
            await answer) with
          | none => exact ⟨rfl, rfl, rfl⟩
          | some next =>
              have hsame := sameEffect_resume hresume
              exact ⟨hsame.replaced, hsame.inputs, hsame.created⟩
  | sessionIframeCreated number accounts =>
      dsimp only [step]
      split
      · exact sameEffect_receive _ _
      · exact ⟨rfl, rfl, rfl⟩
  | sessionDeleted number =>
      dsimp only [step]
      split
      · exact ⟨rfl, rfl, rfl⟩
      · exact ⟨rfl, rfl, rfl⟩
  | connect =>
      dsimp only [step]
      split
      · exact ⟨rfl, rfl, rfl⟩
      · exact ⟨rfl, rfl, rfl⟩
  | disconnect =>
      dsimp only [step]
      split
      · exact ⟨rfl, rfl, rfl⟩
      · exact ⟨rfl, rfl, rfl⟩

@[simp] theorem current_cleanUp : this.cleanUp.current = this.current := by
  unfold cleanUp
  split <;> rfl

@[simp] theorem pending_cleanUp : this.cleanUp.pending = this.pending := by
  unfold cleanUp
  split <;> rfl

theorem current_effect (inputs : DappConnectorInputs) :
    (this.effect inputs).current = this.current + 1 :=
  List.length_append

/-- Of the connectors that are created before, a new run of the effect changes nothing. -/
theorem Interferes.of_effect {inputs : DappConnectorInputs}
    (h : (this.effect inputs).Interferes connector) :
    this.current + 1 = connector ∨ this.Interferes connector := by
  cases h with
  | provided h => exact .inr (.provided h)
  | created h =>
      rcases List.mem_append.mp h with hold | hnew
      · exact .inr (.created hold)
      · exact .inl (List.mem_singleton.mp hnew).symm
  | deleted h => exact .inr (.deleted h)
  | awaits h =>
      obtain ⟨pending, hmem, hconnector⟩ := h
      rcases List.mem_append.mp hmem with hold | hnew
      · exact .inr (.awaits ⟨pending, hold, hconnector⟩)
      · rw [List.mem_singleton.mp hnew] at hconnector
        exact .inl hconnector
  | session session h => exact .inr (.session session h)

/-- A connector that is destroyed can only be awaited for. -/
theorem Interferes.of_destroy (h : (this.destroy connector).Interferes connector) :
    this.Awaits connector := by
  cases h with
  | provided h => cases h
  | created h => simp [destroy] at h
  | deleted h => simp [destroy] at h
  | awaits h => exact h
  | session session h => cases h

theorem Interferes.of_cleanUp (h : this.cleanUp.Interferes connector) :
    this.Interferes connector := by
  unfold cleanUp at h
  split at h
  · cases h with
    | provided h => cases h
    | created h => exact .created (List.mem_of_mem_filter h)
    | deleted h => exact .deleted (List.mem_of_mem_filter h)
    | awaits h => exact .awaits h
    | session session h => cases h
  · exact h

/-- What a connector has to do with the provider after it was replaced. -/
def Outlives (this : HederaDappConnectorProvider) (connector : Nat) : Prop :=
  this.current ≠ connector ∧ this.Interferes connector

/-- The effect runs again before the connector could be destroyed, or while something of it is
awaited. -/
def Abandons (connector : Nat) (this : HederaDappConnectorProvider)
    (event : DappConnectorEvent) : Prop :=
  Replaces connector this event ∧ (this.currentDestroy = false ∨ this.Awaits connector)

theorem Outlives.of_step {event : DappConnectorEvent}
    (h : (this.step event).Outlives connector) :
    this.Outlives connector ∨ Abandons connector this event := by
  obtain ⟨hcurrent, hinterferes⟩ := h
  by_cases hrender : ∃ inputs, event = .render inputs
  · obtain ⟨inputs, rfl⟩ := hrender
    dsimp only [step] at hcurrent hinterferes
    unfold render at hcurrent hinterferes
    split at hcurrent
    · next hsame =>
        rw [if_pos hsame] at hinterferes
        exact .inl ⟨hcurrent, hinterferes⟩
    · next hchanged =>
        rw [if_neg hchanged] at hinterferes
        rw [current_effect] at hcurrent
        have hcleaned := hinterferes.of_effect.resolve_left hcurrent
        by_cases hown : this.current = connector
        · refine .inr ⟨⟨hown, inputs, rfl, hchanged⟩, ?_⟩
          cases hdestroy : this.currentDestroy with
          | false => exact .inl rfl
          | true =>
              rw [cleanUp, if_pos hdestroy, hown] at hcleaned
              exact .inr hcleaned.of_destroy
        · exact .inl ⟨hown, hcleaned.of_cleanUp⟩
  · have hother : ∀ inputs, event ≠ .render inputs := by
      intro inputs hevent
      exact hrender ⟨inputs, hevent⟩
    rw [current, (sameEffect_step hother).replaced] at hcurrent
    exact .inl ⟨hcurrent, hinterferes.of_step hother⟩

/-- The callback for sessions is set of the last connector, and of no later one. -/
structure Mounted (this : HederaDappConnectorProvider) : Prop where
  created : this.current ∈ this.onSessionIframeCreated
  le : ∀ number ∈ this.onSessionIframeCreated, number ≤ this.current

theorem mounted_mount (inputs : DappConnectorInputs) : (mount inputs).Mounted := by
  constructor
  · exact List.mem_singleton_self 0
  · intro number hmem
    rw [List.mem_singleton.mp hmem]
    exact Nat.le_refl 0

theorem created_of_cleanUp {number : Nat} (h : number ∈ this.cleanUp.onSessionIframeCreated) :
    number ∈ this.onSessionIframeCreated := by
  unfold cleanUp at h
  split at h
  · exact List.mem_of_mem_filter h
  · exact h

theorem created_cleanUp {number : Nat} (hmem : number ∈ this.onSessionIframeCreated)
    (h : this.currentDestroy = false ∨ number ≠ this.current) :
    number ∈ this.cleanUp.onSessionIframeCreated := by
  unfold cleanUp
  split
  · next hdestroy =>
      have hne : number ≠ this.current := by
        rcases h with hfalse | hne
        · rw [hfalse] at hdestroy
          cases hdestroy
        · exact hne
      exact List.mem_filter.mpr ⟨hmem, bne_iff_ne.mpr hne⟩
  · exact hmem

theorem Mounted.step (h : this.Mounted) (event : DappConnectorEvent) :
    (this.step event).Mounted := by
  by_cases hrender : ∃ inputs, event = .render inputs
  · obtain ⟨inputs, rfl⟩ := hrender
    dsimp only [HederaDappConnectorProvider.step]
    unfold render
    split
    · exact h
    · constructor
      · rw [current_effect, current_cleanUp]
        apply List.mem_append_right
        rw [current_cleanUp]
        exact List.mem_singleton_self _
      · intro number hmem
        rw [current_effect, current_cleanUp]
        rcases List.mem_append.mp hmem with hold | hnew
        · exact Nat.le_succ_of_le (h.le number (created_of_cleanUp hold))
        · rw [List.mem_singleton.mp hnew, current_cleanUp]
  · have hother : ∀ inputs, event ≠ .render inputs := by
      intro inputs hevent
      exact hrender ⟨inputs, hevent⟩
    have hsame : SameEffect this (this.step event) := sameEffect_step hother
    constructor
    · rw [current, hsame.replaced, hsame.created]
      exact h.created
    · intro number hmem
      rw [hsame.created] at hmem
      rw [current, hsame.replaced]
      exact h.le number hmem

/-- An abandoned connector does outlive the effect. -/
theorem Abandons.outlives (h : this.Mounted) {event : DappConnectorEvent}
    (habandons : Abandons connector this event) : (this.step event).Outlives connector := by
  obtain ⟨⟨rfl, inputs, rfl, hchanged⟩, hkept⟩ := habandons
  dsimp only [HederaDappConnectorProvider.step]
  rw [render, if_neg hchanged]
  constructor
  · rw [current_effect, current_cleanUp]
    exact Nat.succ_ne_self _
  · rcases hkept with hdestroy | hawaits
    · apply Interferes.created
      exact List.mem_append_left _ (created_cleanUp h.created (.inl hdestroy))
    · obtain ⟨pending, hmem, hconnector⟩ := hawaits
      refine .awaits ⟨pending, List.mem_append_left _ ?_, hconnector⟩
      rw [pending_cleanUp]
      exact hmem

/-- A connector that is listened to for sessions though it was replaced. -/
def Listened (this : HederaDappConnectorProvider) (connector : Nat) : Prop :=
  this.current ≠ connector ∧ connector ∈ this.onSessionIframeCreated

theorem listened_step (h : this.Mounted) (event : DappConnectorEvent) :
    (this.step event).Listened connector ↔ this.Listened connector ∨
      Replaces connector this event ∧ this.currentDestroy = false := by
  by_cases hrender : ∃ inputs, event = .render inputs ∧ inputs ≠ this.inputs
  · obtain ⟨inputs, rfl, hchanged⟩ := hrender
    dsimp only [Listened, HederaDappConnectorProvider.step]
    rw [render, if_neg hchanged, current_effect, current_cleanUp]
    constructor
    · rintro ⟨hcurrent, hmem⟩
      have hcleaned : connector ∈ this.cleanUp.onSessionIframeCreated := by
        rcases List.mem_append.mp hmem with hold | hnew
        · exact hold
        · rw [current_cleanUp] at hnew
          exact absurd (List.mem_singleton.mp hnew).symm hcurrent
      by_cases hown : this.current = connector
      · refine .inr ⟨⟨hown, inputs, rfl, hchanged⟩, ?_⟩
        cases hdestroy : this.currentDestroy with
        | false => rfl
        | true =>
            rw [cleanUp, if_pos hdestroy, hown] at hcleaned
            simp [destroy] at hcleaned
      · exact .inl ⟨hown, created_of_cleanUp hcleaned⟩
    · rintro (⟨hown, hmem⟩ | ⟨⟨rfl, _⟩, hdestroy⟩)
      · constructor
        · have hle := h.le connector hmem
          omega
        · exact List.mem_append_left _ (created_cleanUp hmem (.inr (Ne.symm hown)))
      · constructor
        · exact Nat.succ_ne_self _
        · exact List.mem_append_left _ (created_cleanUp h.created (.inl hdestroy))
  · have hno : ¬ Replaces connector this event := fun hreplaces => hrender hreplaces.2
    simp only [hno, false_and, or_false]
    by_cases hsame : ∃ inputs, event = .render inputs
    · obtain ⟨inputs, rfl⟩ := hsame
      dsimp only [HederaDappConnectorProvider.step]
      rw [render, if_pos (by_contra fun hchanged => hrender ⟨inputs, rfl, hchanged⟩)]
    · have hother : ∀ inputs, event ≠ .render inputs := by
        intro inputs hevent
        exact hsame ⟨inputs, hevent⟩
      have heffect : SameEffect this (this.step event) := sameEffect_step hother
      rw [Listened, Listened, current, heffect.replaced, heffect.created]
      rfl

theorem not_interferes_mount {inputs : DappConnectorInputs}
    (hne : (mount inputs).current ≠ connector) : ¬ (mount inputs).Interferes connector := by
  intro h
  cases h with
  | provided h => cases h
  | created h => exact hne (List.mem_singleton.mp h).symm
  | deleted h => cases h
  | awaits h =>
      obtain ⟨pending, hmem, hconnector⟩ := h
      rw [List.mem_singleton.mp hmem] at hconnector
      exact hne hconnector
  | session session h => cases h

/-- A connector outlives its replacement exactly if it is replaced before it can be destroyed or
while something of it is awaited; its sessions are taken over for good exactly in the first
case. -/
theorem replaced_run (inputs : DappConnectorInputs) (events : List DappConnectorEvent)
    (connector : Nat) :
    ((∃ earlier later, events = earlier ++ later ∧
        (EventRun.run HederaDappConnectorProvider.step (mount inputs) earlier).Outlives
          connector) ↔
      EventRun.Fires HederaDappConnectorProvider.step (Abandons connector) (mount inputs)
        events) ∧
    ((EventRun.run HederaDappConnectorProvider.step (mount inputs) events).Listened connector ↔
      EventRun.Fires HederaDappConnectorProvider.step
        (fun this event => Replaces connector this event ∧ this.currentDestroy = false)
        (mount inputs) events) := by
  have hkeep (this : HederaDappConnectorProvider) (event : DappConnectorEvent)
      (h : this.Mounted) : (this.step event).Mounted := h.step event
  have hbefore : ¬ (mount inputs).Outlives connector := by
    rintro ⟨hcurrent, hinterferes⟩
    exact not_interferes_mount hcurrent hinterferes
  have hunheard : ¬ (mount inputs).Listened connector := by
    rintro ⟨hcurrent, hmem⟩
    exact not_interferes_mount hcurrent (.created hmem)
  constructor
  · have hstep (this : HederaDappConnectorProvider) (event : DappConnectorEvent)
        (_ : this.Mounted) (h : (this.step event).Outlives connector) :
        this.Outlives connector ∨ Abandons connector this event := h.of_step
    have habandons (this : HederaDappConnectorProvider) (event : DappConnectorEvent)
        (h : this.Mounted) (habandons : Abandons connector this event) :
        (this.step event).Outlives connector := habandons.outlives h
    exact EventRun.reaches_iff_fires _ (P := fun this => this.Outlives connector) hkeep hstep
      habandons (mounted_mount inputs) hbefore events
  · have hstep (this : HederaDappConnectorProvider) (event : DappConnectorEvent)
        (h : this.Mounted) : (this.step event).Listened connector ↔
          this.Listened connector ∨ Replaces connector this event ∧ this.currentDestroy = false :=
      listened_step h event
    have hlistened := EventRun.run_iff_fires _ (P := fun this => this.Listened connector) hkeep
      hstep (mounted_mount inputs) events
    rw [hlistened]
    exact or_iff_right hunheard

/-- A connector that was replaced is provided, if it is initialised after the one of the inputs. -/
example : (EventRun.run HederaDappConnectorProvider.step (mount ⟨"", .mainnet, []⟩)
    [.render ⟨"", .testnet, []⟩, .answered 1 (.initialized []),
      .answered 0 (.initialized [])]).dappConnector = some 0 := by
  decide

end Replaced

section InApp

variable {this : HederaDappConnectorProvider} {connector : Nat}

/-- The chain is selected among the children of the provider, which are rendered only while a
connector is provided. -/
def offers (this : HederaDappConnectorProvider) : DappConnectorEvent → Bool
  | .render _ => this.shown.isSome
  | _ => true

def stepInApp (this : HederaDappConnectorProvider) (event : DappConnectorEvent) :
    HederaDappConnectorProvider :=
  if this.offers event then this.step event else this

/-- What has become of the initialisation of the last connector. -/
inductive Phase where
  | initializing
  | ready
  | failed
  deriving DecidableEq, Repr

/-- The last connector, in one phase only. -/
def Phase.only (phase expected : Phase) (connector : Nat) : List Nat :=
  if phase = expected then [connector] else []

/-- Nothing but the last connector is provided and listened to. -/
structure InPhase (this : HederaDappConnectorProvider) (phase : Phase) : Prop where
  created : this.onSessionIframeCreated = [this.current]
  deleted : this.sessionDeleteListeners = phase.only .ready this.current
  provided : this.dappConnector = (phase.only .ready this.current).head?
  destroys : this.currentDestroy = decide (phase = .ready)
  failed : this.dappConnectorError.isSome = decide (phase = .failed)

def initializing (this : HederaDappConnectorProvider) : List Nat :=
  this.pending.flatMap PendingAwait.initializing

/-- In its phase, the last connector is also the only one whose initialisation is awaited. -/
structure Alive (this : HederaDappConnectorProvider) (phase : Phase) : Prop where
  inPhase : this.InPhase phase
  awaited : this.initializing = phase.only .initializing this.current

theorem alive_mount (inputs : DappConnectorInputs) : (mount inputs).Alive .initializing :=
  ⟨⟨rfl, rfl, rfl, rfl, rfl⟩, rfl⟩

theorem Alive.mounted {phase : Phase} (h : this.Alive phase) : this.Mounted := by
  constructor
  · rw [h.inPhase.created]
    exact List.mem_singleton_self _
  · intro number hmem
    rw [h.inPhase.created] at hmem
    exact Nat.le_of_eq (List.mem_singleton.mp hmem)

theorem Alive.ready_of_shown {phase : Phase} (h : this.Alive phase)
    (hshown : this.shown.isSome = true) : phase = .ready := by
  obtain ⟨number, hnumber⟩ := Option.isSome_iff_exists.mp hshown
  have hprovided := provided_of_shown hnumber
  rw [h.inPhase.provided] at hprovided
  cases phase with
  | initializing => cases hprovided
  | ready => rfl
  | failed => cases hprovided

/-- The connector that is provided was made for the inputs of the last render. -/
theorem Alive.options_of_provided {phase : Phase} (h : this.Alive phase)
    (hprovided : this.dappConnector = some connector) :
    this.options connector = some this.inputs.options := by
  rw [h.inPhase.provided] at hprovided
  cases phase with
  | initializing => cases hprovided
  | ready =>
      cases hprovided
      exact this.options_current
  | failed => cases hprovided

theorem Alive.setSession {phase : Phase} (h : this.Alive phase) (number : Nat)
    (session : Option HederaDappConnectorSession) :
    (this.setSession number session).Alive phase :=
  ⟨⟨h.inPhase.created, h.inPhase.deleted, h.inPhase.provided, h.inPhase.destroys,
    h.inPhase.failed⟩, h.awaited⟩

theorem initializing_await (number : Nat) (await : DappConnectorAwait) :
    (this.await number await).initializing =
      this.initializing ++ PendingAwait.initializing ⟨number, await⟩ := by
  rw [initializing, HederaDappConnectorProvider.await, List.flatMap_append, List.flatMap_singleton]
  rfl

theorem initializing_effect (inputs : DappConnectorInputs) :
    (this.effect inputs).initializing = this.initializing ++ [this.current + 1] := by
  rw [initializing, effect, List.flatMap_append, List.flatMap_singleton]
  rfl

theorem InPhase.await {phase : Phase} (h : this.InPhase phase) (number : Nat)
    (await : DappConnectorAwait) : (this.await number await).InPhase phase :=
  ⟨h.created, h.deleted, h.provided, h.destroys, h.failed⟩

theorem Alive.await {phase : Phase} (h : this.Alive phase) (number : Nat)
    {await : DappConnectorAwait} (hawait : await.initializes = false) :
    (this.await number await).Alive phase := by
  refine ⟨h.inPhase.await number await, ?_⟩
  rw [initializing_await, PendingAwait.initializing, hawait, h.awaited]
  exact List.append_nil _

theorem Alive.receive {phase : Phase} (h : this.Alive phase) (number : Nat)
    (accounts : List Text) : (this.receive number accounts).Alive phase := by
  unfold HederaDappConnectorProvider.receive
  split
  · exact h.setSession _ _
  · exact h.await _ rfl

/-- An answer takes its await out of the list. -/
theorem initializing_eraseIdx {position : Nat} {pending : PendingAwait}
    (h : this.pending[position]? = some pending) : ∃ before after,
      this.initializing = before ++ (pending.initializing ++ after) ∧
      initializing { this with pending := this.pending.eraseIdx position } =
        before ++ after := by
  obtain ⟨hlt, hpending⟩ := List.getElem?_eq_some_iff.mp h
  refine ⟨(this.pending.take position).flatMap PendingAwait.initializing,
    (this.pending.drop (position + 1)).flatMap PendingAwait.initializing, ?_, ?_⟩
  · have hsplit : this.pending =
        this.pending.take position ++ pending :: this.pending.drop (position + 1) := by
      rw [← hpending, ← List.drop_eq_getElem_cons hlt, List.take_append_drop]
    rw [initializing, hsplit, List.flatMap_append, List.flatMap_cons, ← hsplit]
  · rw [initializing, List.eraseIdx_eq_take_drop_succ, List.flatMap_append]

theorem InPhase.erase {phase : Phase} (h : this.InPhase phase) (position : Nat) :
    InPhase { this with pending := this.pending.eraseIdx position } phase :=
  ⟨h.created, h.deleted, h.provided, h.destroys, h.failed⟩

/-- An initialisation that is answered is that of the last connector, and the only one. -/
theorem Alive.erase_init {phase : Phase} (h : this.Alive phase) {position : Nat}
    {pending : PendingAwait} (hpending : this.pending[position]? = some pending)
    (hinit : pending.await.initializes = true) :
    phase = .initializing ∧ pending.connector = this.current ∧
      initializing { this with pending := this.pending.eraseIdx position } = [] := by
  obtain ⟨before, after, hbefore, hafter⟩ := initializing_eraseIdx hpending
  rw [h.awaited, PendingAwait.initializing, if_pos hinit] at hbefore
  cases phase with
  | initializing =>
      have hsingle : [this.current] = before ++ ([pending.connector] ++ after) := hbefore
      cases before with
      | nil =>
          simp only [List.nil_append, List.singleton_append, List.cons.injEq] at hsingle
          refine ⟨rfl, hsingle.1.symm, ?_⟩
          rw [hafter, ← hsingle.2, List.nil_append]
      | cons first rest => simp at hsingle
  | ready =>
      have hnil : [] = before ++ ([pending.connector] ++ after) := hbefore
      simp at hnil
  | failed =>
      have hnil : [] = before ++ ([pending.connector] ++ after) := hbefore
      simp at hnil

theorem Alive.erase {phase : Phase} (h : this.Alive phase) {position : Nat}
    {pending : PendingAwait} (hpending : this.pending[position]? = some pending)
    (hinit : pending.await.initializes = false) :
    Alive { this with pending := this.pending.eraseIdx position } phase := by
  refine ⟨h.inPhase.erase position, ?_⟩
  obtain ⟨before, after, hbefore, hafter⟩ := initializing_eraseIdx hpending
  rw [PendingAwait.initializing, hinit] at hbefore
  rw [hafter]
  exact hbefore.symm.trans h.awaited

/-- The last connector is provided once nothing of its initialisation is awaited. -/
theorem InPhase.provide (h : this.InPhase .initializing) (hnone : this.initializing = []) :
    (this.provide this.current).Alive .ready := by
  refine ⟨⟨h.created, ?_, rfl, ?_, h.failed⟩, hnone⟩
  · rw [HederaDappConnectorProvider.provide, h.deleted]
    rfl
  · simp [HederaDappConnectorProvider.provide]

theorem InPhase.fail (h : this.InPhase .initializing) (hnone : this.initializing = [])
    (error : String) : (this.fail error).Alive .failed :=
  ⟨⟨h.created, h.deleted, rfl, h.destroys, rfl⟩, hnone⟩

theorem InPhase.setSession {phase : Phase} (h : this.InPhase phase) (number : Nat)
    (session : Option HederaDappConnectorSession) :
    (this.setSession number session).InPhase phase :=
  ⟨h.created, h.deleted, h.provided, h.destroys, h.failed⟩

/-- What follows an initialisation leaves the connector in one of its phases. -/
theorem InPhase.resume_init (h : this.InPhase .initializing) (hnone : this.initializing = [])
    {await : DappConnectorAwait} (hinit : await.initializes = true)
    {answer : DappConnectorAnswer} {next : HederaDappConnectorProvider}
    (hresume : this.resume this.current await answer = some next) :
    ∃ phase, next.Alive phase := by
  cases await with
  | init =>
      cases answer with
      | initialized signers =>
          cases signers with
          | nil =>
              cases hresume
              exact ⟨_, h.provide hnone⟩
          | cons signer signers =>
              cases hresume
              refine ⟨.initializing, h.await _ _, ?_⟩
              rw [initializing_await, hnone]
              rfl
      | rejected error =>
          cases hresume
          exact ⟨_, h.fail hnone error⟩
      | address evmAddress => cases hresume
      | session accounts => cases hresume
      | disconnected => cases hresume
  | existingAccount signer =>
      cases answer with
      | address evmAddress =>
          dsimp only [resume] at hresume
          split at hresume
          · cases hresume
            exact ⟨_, h.provide hnone⟩
          · cases hresume
            exact ⟨_, (h.setSession _ _).provide hnone⟩
      | initialized signers => cases hresume
      | rejected error => cases hresume
      | session accounts => cases hresume
      | disconnected => cases hresume
  | sessionAccount userAccountId chain => cases hinit
  | connect => cases hinit
  | disconnectAll => cases hinit

theorem Alive.resume {phase : Phase} (h : this.Alive phase) {number : Nat}
    {await : DappConnectorAwait} (hinit : await.initializes = false)
    {answer : DappConnectorAnswer} {next : HederaDappConnectorProvider}
    (hresume : this.resume number await answer = some next) : next.Alive phase := by
  unfold HederaDappConnectorProvider.resume at hresume
  split at hresume
  · cases hinit
  · cases hinit
  · cases hinit
  · cases hinit
  · cases hresume
    exact h.setSession _ _
  · cases hresume
    exact h
  · cases hresume
    exact h.receive _ _
  · cases hresume
    exact h
  · cases hresume
    exact h.setSession _ _
  · cases hresume
    exact h
  · cases hresume

theorem Alive.answered {phase : Phase} (h : this.Alive phase) (position : Nat)
    (answer : DappConnectorAnswer) : ∃ next, (this.answered position answer).Alive next := by
  unfold HederaDappConnectorProvider.answered
  split
  · exact ⟨phase, h⟩
  · next number await hpending =>
      cases hresume : ({ this with pending := this.pending.eraseIdx position }.resume number
        await answer) with
      | none => exact ⟨phase, h⟩
      | some next =>
          cases hinit : await.initializes with
          | true =>
              obtain ⟨rfl, hnumber, hnone⟩ := h.erase_init hpending hinit
              obtain rfl : number = this.current := hnumber
              exact (h.inPhase.erase position).resume_init hnone hinit hresume
          | false => exact ⟨phase, (h.erase hpending hinit).resume hinit hresume⟩

/-- A chain that is selected starts the initialisation of a connector of its own. -/
theorem Alive.render (h : this.Alive .ready) {inputs : DappConnectorInputs}
    (hchanged : inputs ≠ this.inputs) : (this.render inputs).Alive .initializing := by
  have hdestroy : this.currentDestroy = true := h.inPhase.destroys
  rw [HederaDappConnectorProvider.render, if_neg hchanged, cleanUp, if_pos hdestroy]
  constructor
  · constructor
    · simp [effect, destroy, current, h.inPhase.created]
    · simp [effect, destroy, h.inPhase.deleted, Phase.only]
    · rfl
    · rfl
    · rfl
  · rw [initializing_effect, current_effect]
    have hawaited : (this.destroy this.current).initializing = [] := h.awaited
    rw [hawaited]
    rfl

theorem Alive.stepInApp {phase : Phase} (h : this.Alive phase) (event : DappConnectorEvent) :
    ∃ next, (this.stepInApp event).Alive next := by
  unfold HederaDappConnectorProvider.stepInApp
  split
  case isFalse => exact ⟨phase, h⟩
  case isTrue hoffers =>
    cases event with
    | render inputs =>
        cases h.ready_of_shown hoffers
        by_cases hchanged : inputs = this.inputs
        · refine ⟨.ready, ?_⟩
          dsimp only [step]
          rw [HederaDappConnectorProvider.render, if_pos hchanged]
          exact h
        · exact ⟨.initializing, h.render hchanged⟩
    | answered position answer => exact h.answered position answer
    | sessionIframeCreated number accounts =>
        refine ⟨phase, ?_⟩
        dsimp only [step]
        split
        · exact h.receive _ _
        · exact h
    | sessionDeleted number =>
        refine ⟨phase, ?_⟩
        dsimp only [step]
        split
        · exact h.setSession number none
        · exact h
    | connect =>
        refine ⟨phase, ?_⟩
        dsimp only [step]
        split
        · exact h
        · exact h.await _ rfl
    | disconnect =>
        refine ⟨phase, ?_⟩
        dsimp only [step]
        split
        · exact h
        · exact h.await _ rfl

/-- An initialisation is answered with an error. -/
def FailsToInitialize (this : HederaDappConnectorProvider) (event : DappConnectorEvent) : Prop :=
  ∃ position number error, event = .answered position (.rejected error) ∧
    this.pending[position]? = some ⟨number, .init⟩

theorem error_receive (number : Nat) (accounts : List Text) :
    (this.receive number accounts).dappConnectorError = this.dappConnectorError := by
  unfold HederaDappConnectorProvider.receive
  split <;> rfl

/-- Only an initialisation that fails sets the error, and nothing that is awaited clears it. -/
theorem error_resume {number : Nat} {await : DappConnectorAwait} {answer : DappConnectorAnswer}
    {next : HederaDappConnectorProvider} (hresume : this.resume number await answer = some next) :
    next.dappConnectorError.isSome = true ↔ this.dappConnectorError.isSome = true ∨
      await = .init ∧ ∃ error, answer = .rejected error := by
  unfold HederaDappConnectorProvider.resume at hresume
  split at hresume
  · cases hresume
    simp [HederaDappConnectorProvider.provide]
  · cases hresume
    simp [HederaDappConnectorProvider.await]
  · cases hresume
    simp [HederaDappConnectorProvider.fail]
  · split at hresume
    · cases hresume
      simp [HederaDappConnectorProvider.provide]
    · cases hresume
      simp [HederaDappConnectorProvider.provide, HederaDappConnectorProvider.setSession]
  · cases hresume
    simp [HederaDappConnectorProvider.setSession]
  · cases hresume
    simp
  · cases hresume
    simp [error_receive]
  · cases hresume
    simp
  · cases hresume
    simp [HederaDappConnectorProvider.setSession]
  · cases hresume
    simp
  · cases hresume

theorem error_answered (position : Nat) (answer : DappConnectorAnswer) :
    (this.answered position answer).dappConnectorError.isSome = true ↔
      this.dappConnectorError.isSome = true ∨
        this.FailsToInitialize (.answered position answer) := by
  unfold HederaDappConnectorProvider.answered
  split
  · next hpending =>
      have hno : ¬ this.FailsToInitialize (.answered position answer) := by
        rintro ⟨other, number, error, hevent, hsome⟩
        cases hevent
        rw [hpending] at hsome
        cases hsome
      simp [hno]
  · next number await hpending =>
      have hfails : this.FailsToInitialize (.answered position answer) ↔
          await = .init ∧ ∃ error, answer = .rejected error := by
        constructor
        · rintro ⟨other, connector, error, hevent, hsome⟩
          cases hevent
          rw [hpending] at hsome
          cases hsome
          exact ⟨rfl, error, rfl⟩
        · rintro ⟨rfl, error, rfl⟩
          exact ⟨position, number, error, rfl, hpending⟩
      rw [hfails]
      cases hresume : ({ this with pending := this.pending.eraseIdx position }.resume number
        await answer) with
      | none =>
          have hno : ¬ (await = .init ∧ ∃ error, answer = .rejected error) := by
            rintro ⟨rfl, error, rfl⟩
            cases hresume
          simp [hno]
      | some next =>
          have hnext := error_resume hresume
          exact hnext

theorem FailsToInitialize.answered {event : DappConnectorEvent}
    (h : this.FailsToInitialize event) : ∃ position answer, event = .answered position answer := by
  obtain ⟨position, _, error, hevent, _⟩ := h
  exact ⟨position, .rejected error, hevent⟩

/-- Neither a wallet nor a button sets or clears the error. -/
theorem error_step {event : DappConnectorEvent} (hrender : ∀ inputs, event ≠ .render inputs)
    (hanswered : ∀ position answer, event ≠ .answered position answer) :
    (this.step event).dappConnectorError = this.dappConnectorError := by
  cases event with
  | render inputs => exact absurd rfl (hrender inputs)
  | answered position answer => exact absurd rfl (hanswered position answer)
  | sessionIframeCreated number accounts =>
      dsimp only [step]
      split
      · exact error_receive _ _
      · rfl
  | sessionDeleted number =>
      dsimp only [step]
      split <;> rfl
  | connect =>
      dsimp only [step]
      split <;> rfl
  | disconnect =>
      dsimp only [step]
      split <;> rfl

theorem error_stepInApp {phase : Phase} (h : this.Alive phase) (event : DappConnectorEvent) :
    (this.stepInApp event).dappConnectorError.isSome = true ↔
      this.dappConnectorError.isSome = true ∨ this.FailsToInitialize event := by
  by_cases hanswered : ∃ position answer, event = .answered position answer
  · obtain ⟨position, answer, rfl⟩ := hanswered
    exact error_answered position answer
  have hno : ¬ this.FailsToInitialize event := fun hfails => hanswered hfails.answered
  rw [or_iff_left hno]
  unfold HederaDappConnectorProvider.stepInApp
  split
  · next hoffers =>
      by_cases hrender : ∃ inputs, event = .render inputs
      · obtain ⟨inputs, rfl⟩ := hrender
        cases h.ready_of_shown hoffers
        dsimp only [step]
        by_cases hchanged : inputs = this.inputs
        · rw [HederaDappConnectorProvider.render, if_pos hchanged]
        · rw [(h.render hchanged).inPhase.failed, h.inPhase.failed]
          rfl
      · rw [error_step]
        · intro inputs hevent
          exact hrender ⟨inputs, hevent⟩
        · intro position answer hevent
          exact hanswered ⟨position, answer, hevent⟩
  · rfl

/-- A chain is selected while something of the connector is awaited. -/
def Leaves (connector : Nat) (this : HederaDappConnectorProvider)
    (event : DappConnectorEvent) : Prop :=
  this.shown.isSome = true ∧ Replaces connector this event ∧ this.Awaits connector

theorem Outlives.of_stepInApp {phase : Phase} (h : this.Alive phase) {event : DappConnectorEvent}
    (houtlives : (this.stepInApp event).Outlives connector) :
    this.Outlives connector ∨ Leaves connector this event := by
  unfold HederaDappConnectorProvider.stepInApp at houtlives
  split at houtlives
  · next hoffers =>
      rcases houtlives.of_step with hbefore | ⟨hreplaces, hkept⟩
      · exact .inl hbefore
      · obtain ⟨hcurrent, inputs, rfl, hchanged⟩ := hreplaces
        have hshown : this.shown.isSome = true := hoffers
        cases h.ready_of_shown hshown
        have hdestroy : this.currentDestroy = true := h.inPhase.destroys
        refine .inr ⟨hshown, ⟨hcurrent, inputs, rfl, hchanged⟩, ?_⟩
        rcases hkept with hfalse | hawaits
        · rw [hdestroy] at hfalse
          cases hfalse
        · exact hawaits
  · exact .inl houtlives

theorem Leaves.outlives {phase : Phase} (h : this.Alive phase) {event : DappConnectorEvent}
    (hleaves : Leaves connector this event) : (this.stepInApp event).Outlives connector := by
  obtain ⟨hshown, ⟨hcurrent, inputs, rfl, hchanged⟩, hawaits⟩ := hleaves
  have hoffers : this.offers (.render inputs) = true := hshown
  rw [HederaDappConnectorProvider.stepInApp, if_pos hoffers]
  exact Abandons.outlives h.mounted ⟨⟨hcurrent, inputs, rfl, hchanged⟩, .inr hawaits⟩

/-- In the app, nothing but the last connector is provided and listened to, and it was made for
the inputs of the last render; the error is shown for good once an initialisation has failed;
and a connector outlives its replacement exactly if its chain is left while something of it is
awaited. -/
theorem inApp_run (inputs : DappConnectorInputs) (events : List DappConnectorEvent) :
    (∃ phase, (EventRun.run stepInApp (mount inputs) events).Alive phase) ∧
    (∀ connector, (EventRun.run stepInApp (mount inputs) events).dappConnector = some connector →
      (EventRun.run stepInApp (mount inputs) events).options connector =
        some (EventRun.run stepInApp (mount inputs) events).inputs.options) ∧
    ((EventRun.run stepInApp (mount inputs) events).dappConnectorError.isSome = true ↔
      EventRun.Fires stepInApp FailsToInitialize (mount inputs) events) ∧
    ∀ connector,
      (∃ earlier later, events = earlier ++ later ∧
        (EventRun.run stepInApp (mount inputs) earlier).Outlives connector) ↔
      EventRun.Fires stepInApp (Leaves connector) (mount inputs) events := by
  have hkeep (this : HederaDappConnectorProvider) (event : DappConnectorEvent)
      (h : ∃ phase, this.Alive phase) : ∃ phase, (this.stepInApp event).Alive phase := by
    obtain ⟨phase, halive⟩ := h
    exact halive.stepInApp event
  have hmount : ∃ phase, (mount inputs).Alive phase := ⟨_, alive_mount inputs⟩
  have halive := EventRun.run_invariant _ hkeep hmount events
  refine ⟨halive, ?_, ?_, ?_⟩
  · intro connector hprovided
    obtain ⟨phase, hphase⟩ := halive
    exact hphase.options_of_provided hprovided
  · have hstep (this : HederaDappConnectorProvider) (event : DappConnectorEvent)
        (h : ∃ phase, this.Alive phase) :
        (this.stepInApp event).dappConnectorError.isSome = true ↔
          this.dappConnectorError.isSome = true ∨ this.FailsToInitialize event := by
      obtain ⟨phase, halive⟩ := h
      exact error_stepInApp halive event
    rw [EventRun.run_iff_fires _ (P := fun this => this.dappConnectorError.isSome = true) hkeep
      hstep hmount events]
    exact or_iff_right Bool.false_ne_true
  · intro connector
    have hstep (this : HederaDappConnectorProvider) (event : DappConnectorEvent)
        (h : ∃ phase, this.Alive phase) (houtlives : (this.stepInApp event).Outlives connector) :
        this.Outlives connector ∨ Leaves connector this event := by
      obtain ⟨phase, halive⟩ := h
      exact houtlives.of_stepInApp halive
    have hleaves (this : HederaDappConnectorProvider) (event : DappConnectorEvent)
        (h : ∃ phase, this.Alive phase) (hleaves : Leaves connector this event) :
        (this.stepInApp event).Outlives connector := by
      obtain ⟨phase, halive⟩ := h
      exact hleaves.outlives halive
    have hbefore : ¬ (mount inputs).Outlives connector := by
      rintro ⟨hcurrent, hinterferes⟩
      exact not_interferes_mount hcurrent hinterferes
    exact EventRun.reaches_iff_fires _ (P := fun this => this.Outlives connector) hkeep hstep
      hleaves hmount hbefore events

end InApp

end HederaDappConnectorProvider

end HLiquity
