import HLiquity.Library.Polling
import HLiquity.Outcome
import Mathlib.Data.String.Basic

/-!
# Waiting for the token associations of an account

After an association or a dissociation the client polls the mirror node until the
account has the required tokens. A failed request is ignored and the last list is tested
again, which at first is the empty one.
-/

namespace HLiquity

/-- The text of a token identifier. -/
abbrev TokenIdString := String

/-- A response of the mirror node. A body without a list of tokens fails to be read. -/
structure TokensResponse where
  status : Nat
  ok : Bool
  json : Result (List TokenIdString)
  text : Result String

/-- One request for a URL, which may fail without a response. -/
abbrev TokensFetch := String → Result TokensResponse

/-- The two ways in which the options name an account. -/
inductive TokensAccount where
  | accountId (id : String)
  | evmAddress (address : String)

structure WaitForTokensOptions where
  tokenIds : List TokenIdString
  apiBaseUrl : String
  account : TokensAccount
  requiredAssociations : Option (List TokenIdString)
  requiredDissociations : Option (List TokenIdString)

namespace WaitForTokensOptions

def accountAddressUrlSegment (options : WaitForTokensOptions) : String :=
  match options.account with
  | .accountId id => id
  | .evmAddress address => (address.dropPrefix? "0x").elim address (·.toString)

def tokensUrl (options : WaitForTokensOptions) : String :=
  let tokenFilter := "?" ++ "&".intercalate (options.tokenIds.map ("token.id[]=" ++ ·))
  options.apiBaseUrl ++ "/accounts/" ++ options.accountAddressUrlSegment ++ "/tokens" ++ tokenFilter

end WaitForTokensOptions

section Waiting

-- what `JSON.stringify` prints of the options, the account, the text and the response
variable (stringify : WaitForTokensOptions → String → String → TokensResponse → String)

def fetchTokens (options : WaitForTokensOptions) (fetch : TokensFetch) :
    Result (List TokenIdString) := do
  let response ← fetch options.tokensUrl
  if !response.ok then
    let responseText ← response.text
    throw (.error ("tokens api responded with " ++ toString response.status ++ ": `" ++
      responseText ++ "` for account " ++ options.accountAddressUrlSegment ++ ". received: " ++
      stringify options options.accountAddressUrlSegment responseText response))
  else response.json

/-- The milliseconds before an attempt. -/
def getAttemptWaitTime (attemptNumber : Nat) : Nat :=
  if attemptNumber < 5 then 2000
  else if attemptNumber < 10 then 4000
  else 8000

/-- The test of the loop: both flags are set. -/
def hasRequiredTokens (options : WaitForTokensOptions) (tokens : List TokenIdString) : Bool :=
  (options.requiredAssociations.getD []).all tokens.contains &&
    (options.requiredDissociations.getD []).all fun tokenIdString =>
      !tokens.contains tokenIdString

/-- What the wait returns, after which time, and the requests it does not make any more. -/
structure TokenWait where
  tokens : List TokenIdString
  waited : Nat
  unused : List TokensFetch

/-- The loop from an attempt on, with the tokens that it holds. -/
def waitFrom (options : WaitForTokensOptions) :
    Nat → List TokenIdString → List TokensFetch → Option TokenWait
  | _, _, [] => none
  | attempt, tokens, fetch :: later =>
      let waitTime := getAttemptWaitTime attempt
      let tokens :=
        match fetchTokens stringify options fetch with
        | .ok fetched => fetched
        | .error _ => tokens
      if hasRequiredTokens options tokens then some ⟨tokens, waitTime, later⟩
      else
        (waitFrom options (attempt + 1) tokens later).map fun wait =>
          { wait with waited := waitTime + wait.waited }

/-- The loop on a sequence of requests. It still waits while there is no result. -/
def waitForTokenState (options : WaitForTokensOptions) (attempts : List TokensFetch) :
    Option TokenWait :=
  waitFrom stringify options 0 [] attempts

/-- The list that a request reads, if it succeeds. -/
def readTokens (options : WaitForTokensOptions) (fetch : TokensFetch) :
    Option (List TokenIdString) :=
  (fetchTokens stringify options fetch).toOption

/-- Apart from the time the loop polls the requests. -/
theorem waitFrom_eq_poll (options : WaitForTokensOptions) (attempt : Nat)
    (tokens : List TokenIdString) (attempts : List TokensFetch) :
    (waitFrom stringify options attempt tokens attempts).map (fun wait =>
        (wait.tokens, wait.unused)) =
      Polling.poll (readTokens stringify options) (hasRequiredTokens options) tokens attempts := by
  induction attempts generalizing attempt tokens with
  | nil => rfl
  | cons fetch later ih =>
      have hheld : (match fetchTokens stringify options fetch with
          | .ok fetched => fetched
          | .error _ => tokens) = (readTokens stringify options fetch).getD tokens := by
        rw [readTokens]
        cases fetchTokens stringify options fetch with
        | ok fetched => rfl
        | error failure => rfl
      rw [waitFrom, Polling.poll, hheld]
      split_ifs with hdone
      · rfl
      · rw [← ih (attempt + 1), Option.map_map]
        rfl

theorem hasRequiredTokens_iff (options : WaitForTokensOptions) (tokens : List TokenIdString) :
    hasRequiredTokens options tokens = true ↔
      (∀ id ∈ options.requiredAssociations.getD [], id ∈ tokens) ∧
        ∀ id ∈ options.requiredDissociations.getD [], id ∉ tokens := by
  simp [hasRequiredTokens]

/-- The initial list is taken for the required one exactly if nothing has to be associated. -/
theorem hasRequiredTokens_nil (options : WaitForTokensOptions) :
    hasRequiredTokens options [] = false ↔ options.requiredAssociations.getD [] ≠ [] := by
  rw [← Bool.not_eq_true, hasRequiredTokens_iff]
  simp [List.eq_nil_iff_forall_not_mem]

/-- Whenever the wait returns, it returns what the latest successful request has fetched, and
this has all required associations and none of the required dissociations. -/
def ReturnsFetchedState (options : WaitForTokensOptions) (attempts : List TokensFetch) : Prop :=
  ∀ wait, waitForTokenState stringify options attempts = some wait →
    ∃ used, attempts = used ++ wait.unused ∧
      Polling.latestRead (readTokens stringify options) used = some wait.tokens ∧
      (∀ id ∈ options.requiredAssociations.getD [], id ∈ wait.tokens) ∧
      ∀ id ∈ options.requiredDissociations.getD [], id ∉ wait.tokens

/-- Success has evidence exactly if something has to be associated or the first request
does not fail. -/
theorem returnsFetchedState_iff (options : WaitForTokensOptions) (attempts : List TokensFetch) :
    ReturnsFetchedState stringify options attempts ↔
      options.requiredAssociations.getD [] ≠ [] ∨
        ∀ fetch ∈ attempts.head?, ∃ tokens, fetchTokens stringify options fetch = .ok tokens := by
  have hread (fetch : TokensFetch) : (readTokens stringify options fetch).isSome ↔
      ∃ tokens, fetchTokens stringify options fetch = .ok tokens := by
    rw [readTokens]
    cases fetchTokens stringify options fetch with
    | ok tokens => exact iff_of_true rfl ⟨tokens, rfl⟩
    | error failure => exact iff_of_false Bool.false_ne_true (fun ⟨_, h⟩ => by cases h)
  have hpoll := waitFrom_eq_poll stringify options 0 [] attempts
  rw [← hasRequiredTokens_nil]
  simp only [← hread]
  rw [← Polling.poll_read_iff, ← hpoll]
  constructor
  · intro h value unused hmap
    obtain ⟨wait, hwait, hpair⟩ := Option.map_eq_some_iff.mp hmap
    cases hpair
    obtain ⟨used, hused, hlatest, _⟩ := h wait hwait
    exact ⟨used, hused, hlatest⟩
  · intro h wait hwait
    have hmap : (waitFrom stringify options 0 [] attempts).map (fun wait =>
        (wait.tokens, wait.unused)) = some (wait.tokens, wait.unused) :=
      congrArg (Option.map _) hwait
    obtain ⟨used, hused, hlatest⟩ := h _ _ hmap
    rw [hpoll] at hmap
    exact ⟨used, hused, hlatest, (hasRequiredTokens_iff options _).mp (Polling.done_of_poll hmap)⟩

end Waiting

/-- The options of a dissociation from one token. -/
def dissociation : WaitForTokensOptions where
  tokenIds := ["0.0.1"]
  apiBaseUrl := "/api/v1"
  account := .accountId "0.0.2"
  requiredAssociations := none
  requiredDissociations := some ["0.0.1"]

/-- A dissociation whose first request fails is reported without any list. -/
theorem dissociation_without_evidence :
    ¬ ReturnsFetchedState (fun _ _ _ _ => "") dissociation
      [fun _ => .error (.error "Failed to fetch")] := by
  intro h
  obtain ⟨used, hused, hlatest, _⟩ := h ⟨[], 2000, []⟩ rfl
  cases (List.append_nil used).symm.trans hused.symm
  cases hlatest

end HLiquity
