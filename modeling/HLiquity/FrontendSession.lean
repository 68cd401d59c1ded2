import HLiquity.Cookies

/-!
# Logging in and selecting a chain

The state of a page is read from the cookies when it loads. A login and the selection of a chain
change the state and set a cookie, for the next load.
-/

namespace HLiquity

namespace FrontendSession

/-- `btoa` -/
def btoa (text : Text) : Result Text :=
  if text.all (·.toNat < 256) then .ok (Base64.encode (text.map Char.toNat))
  else .error (.error "InvalidCharacterError")

def isHexDigit (c : Char) : Bool := c.isDigit || ('a' ≤ c && c ≤ 'f') || ('A' ≤ c && c ≤ 'F')

def hexDigitValue (c : Char) : Nat :=
  if c.isDigit then c.toNat - '0'.toNat
  else if 'a' ≤ c then c.toNat - 'a'.toNat + 10
  else c.toNat - 'A'.toNat + 10

/-- The digits at the start of a text, as a number. -/
def leadingNumber (text : Text) : Option Nat :=
  let prefixed (digits : Text) : Option Nat :=
    let hex := digits.takeWhile isHexDigit
    if hex = [] then none else some (hex.foldl (fun n c => 16 * n + hexDigitValue c) 0)
  match text with
  | '0' :: 'x' :: rest => prefixed rest
  | '0' :: 'X' :: rest => prefixed rest
  | text =>
      let digits := text.takeWhile Char.isDigit
      if digits = [] then none else some (Decimal.bigNumberFrom digits)

/-- `parseInt` without a radix, with `none` for `NaN`. Numbers from the safe integers on are not
rounded: they are the identifiers of no chain. -/
def parseInt (text : Text) : Option Int :=
  match text.dropWhile Char.isWhitespace with
  | '-' :: rest => (leadingNumber rest).map fun n => -(n : Int)
  | '+' :: rest => (leadingNumber rest).map fun n => (n : Int)
  | rest => (leadingNumber rest).map fun n => (n : Int)

def passwordCookieName : Text := "hliquity_password".toList

def chainCookieName : Text := "hliquity_selected_chain_id".toList

def cookieAttributes : Text := "; max-age=31536000; SameSite=Strict; Secure".toList

def getPasswordCookieValue (cookieString : Text) : Option Text :=
  getCookieValue passwordCookieName cookieString

def getSelectedChainIdCookieValue (cookieString : Text) : Option Int := do
  let cookieValue ← getCookieValue chainCookieName cookieString
  if cookieValue = [] then none else parseInt cookieValue

end FrontendSession

/-- A chain, by its identifier, which is a safe integer. -/
structure HederaChain where
  id : Nat
  id_lt : id < 2 ^ 53
  deriving DecidableEq, Repr

/-- The password of the environment, encoded, and the chains that can be selected. -/
structure FrontendConfiguration where
  hliquityPassword : Text
  chainsWithDeployment : List HederaChain

structure FrontendSession where
  jar : List Cookie
  encodedPassword : Option Text
  chain : Option HederaChain

/-- A submitted password, a choice of the chain selector, a cookie that is set by something
else, or a reload. -/
inductive FrontendEvent where
  | logIn (password : Text)
  | selectChain (value : Text)
  | otherCookie (cookie : Cookie)
  | reload

namespace FrontendSession

variable (config : FrontendConfiguration)

/-- The initial states of the two providers. -/
def load (jar : List Cookie) : FrontendSession where
  jar := jar
  encodedPassword := getPasswordCookieValue (documentCookie jar)
  chain :=
    (config.chainsWithDeployment.find? fun chain =>
      some (chain.id : Int) = getSelectedChainIdCookieValue (documentCookie jar)).or
        config.chainsWithDeployment.head?

def authenticated (this : FrontendSession) : Bool :=
  config.hliquityPassword.isEmpty || this.encodedPassword == some config.hliquityPassword

/-- `logIn`, which throws a text for a wrong password. -/
def logIn (this : FrontendSession) (password : Text) : Result FrontendSession := do
  let encodedPassword ← btoa password
  if encodedPassword = config.hliquityPassword then
    return { this with
      jar := setCookie this.jar
        (Cookie.parse (passwordCookieName ++ '=' :: encodedPassword ++ cookieAttributes))
      encodedPassword := some encodedPassword }
  else throw (.error "wrong password")

def setChain (this : FrontendSession) (chain : HederaChain) : FrontendSession :=
  { this with
    jar := setCookie this.jar
      (Cookie.parse (chainCookieName ++ '=' :: numberText chain.id ++ cookieAttributes))
    chain := some chain }

/-- The handler of the chain selector. -/
def selectChain (this : FrontendSession) (value : Text) : FrontendSession :=
  match config.chainsWithDeployment.find? fun chain => some (chain.id : Int) = parseInt value with
  | some chain => this.setChain chain
  | none => this

def step (this : FrontendSession) : FrontendEvent → FrontendSession
  | .logIn password =>
      match this.logIn config password with
      | .ok session => session
      | .error _ => this
  | .selectChain value => this.selectChain config value
  | .otherCookie cookie => { this with jar := setCookie this.jar cookie }
  | .reload => load config this.jar

end FrontendSession

namespace FrontendSession

/-- The name and the value of an assignment are read from it. -/
theorem parse_assignment {name value : Text}
    (hname : ∀ c ∈ name, c ≠ '=' ∧ c ≠ ';' ∧ isBlank c = false)
    (hvalue : ∀ c ∈ value, c ≠ ';' ∧ isBlank c = false) :
    (Cookie.parse (name ++ '=' :: value ++ cookieAttributes)).name = name ∧
      (Cookie.parse (name ++ '=' :: value ++ cookieAttributes)).value = value := by
  have hpair : (name ++ '=' :: value ++ cookieAttributes).takeWhile (· != ';') =
      name ++ '=' :: value := by
    have hall : ∀ c ∈ name ++ '=' :: value, (c != ';') = true := by
      intro c hc
      rw [List.mem_append, List.mem_cons] at hc
      rcases hc with hmem | rfl | hmem
      · simpa using (hname c hmem).2.1
      · rfl
      · simpa using (hvalue c hmem).1
    rw [List.takeWhile_append_of_pos hall]
    exact List.append_nil _
  have hsplit : Decimal.splitAtFirst '=' (name ++ '=' :: value) = (name, value) := by
    have hall : ∀ c ∈ name, (c != '=') = true := fun c hc => by simpa using (hname c hc).1
    simp [Decimal.splitAtFirst, List.takeWhile_append_of_pos hall,
      List.dropWhile_append_of_pos hall]
  constructor
  · change trimBlanks (Decimal.splitAtFirst '=' (List.takeWhile _ _)).1 = name
    rw [hpair, hsplit]
    exact trimBlanks_eq_self fun c hc => (hname c hc).2.2
  · change trimBlanks (Decimal.splitAtFirst '=' (List.takeWhile _ _)).2 = value
    rw [hpair, hsplit]
    exact trimBlanks_eq_self fun c hc => (hvalue c hc).2

theorem not_isWhitespace_of_isDigit {c : Char} (h : c.isDigit = true) : c.isWhitespace = false := by
  rw [Bool.eq_false_iff]
  intro hblank
  simp only [Char.isWhitespace, Bool.or_eq_true, decide_eq_true_eq] at hblank
  rcases hblank with ((rfl | rfl) | rfl) | rfl <;> cases h

theorem leadingNumber_digits {text : Text} (hne : text ≠ [])
    (h : ∀ c ∈ text, c.isDigit = true) :
    leadingNumber text = some (Decimal.bigNumberFrom text) := by
  have htake : text.takeWhile Char.isDigit = text := List.takeWhile_eq_self_iff.mpr h
  unfold leadingNumber
  split
  · next rest =>
      have hx := h 'x' (by simp)
      cases hx
  · next rest =>
      have hx := h 'X' (by simp)
      cases hx
  · dsimp only
    rw [htake, if_neg hne]

theorem numberText_eq_toDigits {n : Nat} (h : n < 2 ^ 53) : numberText n = Nat.toDigits 10 n :=
  if_pos ((Nat.length_toDigits_le_iff (by decide) (by decide)).mpr (h.trans (by decide)))

/-- The digits of a number are parsed to it. -/
theorem parseInt_numberText {n : Nat} (h : n < 2 ^ 53) :
    parseInt (numberText n) = some (n : Int) := by
  rw [numberText_eq_toDigits h]
  have hdigits : ∀ c ∈ Nat.toDigits 10 n, c.isDigit = true :=
    fun c hc => Decimal.isDigit_of_mem_toDigits hc
  have hnumber := leadingNumber_digits Nat.toDigits_ne_nil hdigits
  rw [Decimal.bigNumberFrom_toDigits] at hnumber
  have hdrop : (Nat.toDigits 10 n).dropWhile Char.isWhitespace = Nat.toDigits 10 n := by
    rw [List.dropWhile_eq_self_iff]
    intro hpos
    rw [not_isWhitespace_of_isDigit (hdigits _ (List.getElem_mem hpos))]
    exact Bool.false_ne_true
  unfold parseInt
  rw [hdrop]
  split
  · next rest heq =>
      have hminus := hdigits '-' (by simp [heq])
      cases hminus
  · next rest heq =>
      have hplus := hdigits '+' (by simp [heq])
      cases hplus
  · rw [hnumber]
    rfl

variable {config : FrontendConfiguration}

theorem passwordCookieName_ok :
    ∀ c ∈ passwordCookieName, c ≠ '=' ∧ c ≠ ';' ∧ isBlank c = false := by
  have hall : (passwordCookieName.all fun c => c != '=' && c != ';' && !isBlank c) = true := by
    decide
  simpa [and_assoc] using hall

theorem chainCookieName_ok :
    ∀ c ∈ chainCookieName, c ≠ '=' ∧ c ≠ ';' ∧ isBlank c = false := by
  have hall : (chainCookieName.all fun c => c != '=' && c != ';' && !isBlank c) = true := by
    decide
  simpa [and_assoc] using hall

theorem cookieNames_ne : passwordCookieName ≠ chainCookieName := by decide

theorem encode_ok {bytes : List Nat} (h : ∀ byte ∈ bytes, byte < 256) :
    ∀ c ∈ Base64.encode bytes, c ≠ ';' ∧ isBlank c = false := by
  intro c hc
  rcases Base64.isDigit_of_mem_encode h hc with hdigit | rfl
  · constructor
    · rintro rfl
      revert hdigit
      decide
    · rw [Bool.eq_false_iff]
      intro hblank
      simp only [isBlank, Bool.or_eq_true, beq_iff_eq] at hblank
      rcases hblank with rfl | rfl <;> revert hdigit <;> decide
  · decide

/-- The texts that can be encoded, and their encodings. -/
theorem btoa_eq_ok {text encoded : Text} : btoa text = .ok encoded ↔
    (∀ c ∈ text, c.toNat < 256) ∧ Base64.encode (text.map Char.toNat) = encoded := by
  have hall : text.all (·.toNat < 256) = true ↔ ∀ c ∈ text, c.toNat < 256 := by simp
  rw [← hall, btoa]
  split
  · next hlatin => exact ⟨fun h => ⟨hlatin, Except.ok.inj h⟩, fun h => congrArg Except.ok h.2⟩
  · next hlatin => exact ⟨nofun, fun h => absurd h.1 hlatin⟩

theorem bytes_lt {text : Text} (h : ∀ c ∈ text, c.toNat < 256) :
    ∀ byte ∈ text.map Char.toNat, byte < 256 := by
  simpa using h

/-- No two passwords have the same encoding. -/
theorem btoa_injective {text other encoded : Text} (h : btoa text = .ok encoded)
    (hother : btoa other = .ok encoded) : text = other := by
  obtain ⟨hlatin, hencoded⟩ := btoa_eq_ok.mp h
  obtain ⟨hlatin', hencoded'⟩ := btoa_eq_ok.mp hother
  have hbytes := Base64.encode_injective (bytes_lt hlatin) (bytes_lt hlatin')
    (hencoded.trans hencoded'.symm)
  exact List.map_injective_iff.mpr (fun a b => Char.toNat_inj.mp) hbytes

/-- An encoded password is read back whole exactly if it has no padding. -/
theorem takeWhile_btoa_iff {secret encoded : Text} (h : btoa secret = .ok encoded) :
    encoded.takeWhile (· != '=') = encoded ↔ secret.length % 3 = 0 := by
  obtain ⟨hlatin, rfl⟩ := btoa_eq_ok.mp h
  have hpad := Base64.pad_mem_encode_iff (bytes_lt hlatin)
  rw [List.length_map, ← not_iff_not, Decidable.not_not] at hpad
  rw [← hpad, List.takeWhile_eq_self_iff]
  constructor
  · intro hall hmem
    exact absurd (hall _ hmem) (by decide)
  · intro hnot c hc
    rw [bne_iff_ne]
    rintro rfl
    exact hnot hc

/-- A login succeeds with the password of the environment, and sets its cookie. -/
theorem logIn_ok {this session : FrontendSession} {password : Text}
    (h : this.logIn config password = .ok session) :
    btoa password = .ok config.hliquityPassword ∧ ∃ cookie : Cookie,
      cookie.name = passwordCookieName ∧ cookie.value = config.hliquityPassword ∧
      session = { this with
        jar := setCookie this.jar cookie
        encodedPassword := some config.hliquityPassword } := by
  obtain ⟨encoded, hencoded, hchecked⟩ := Result.bind_eq_ok.mp h
  split at hchecked
  · next heq =>
      cases hchecked
      subst heq
      obtain ⟨hlatin, hbytes⟩ := btoa_eq_ok.mp hencoded
      have hvalue : ∀ c ∈ config.hliquityPassword, c ≠ ';' ∧ isBlank c = false := by
        rw [← hbytes]
        exact encode_ok (bytes_lt hlatin)
      obtain ⟨hname, hread⟩ := parse_assignment passwordCookieName_ok hvalue
      exact ⟨hencoded, _, hname, hread, rfl⟩
  · cases hchecked

theorem load_encodedPassword (jar : List Cookie) : (load config jar).encodedPassword =
    (jar.find? (·.name = passwordCookieName)).map fun cookie =>
      cookie.value.takeWhile (· != '=') :=
  getCookieValue_documentCookie (fun c hc => (passwordCookieName_ok c hc).1) jar

/-- The chain that is loaded is a matter of its cookie alone. -/
theorem load_chain_congr {jar other : List Cookie}
    (h : jar.find? (·.name = chainCookieName) = other.find? (·.name = chainCookieName)) :
    (load config jar).chain = (load config other).chain := by
  have hvalue : getSelectedChainIdCookieValue (documentCookie jar) =
      getSelectedChainIdCookieValue (documentCookie other) := by
    have hname := fun c hc => (chainCookieName_ok c hc).1
    rw [getSelectedChainIdCookieValue, getSelectedChainIdCookieValue,
      getCookieValue_documentCookie hname, getCookieValue_documentCookie hname, h]
  rw [load, load, hvalue]

theorem numberText_ok (chain : HederaChain) :
    ∀ c ∈ numberText chain.id, c ≠ '=' ∧ c ≠ ';' ∧ isBlank c = false := by
  intro c hc
  rw [numberText_eq_toDigits chain.id_lt] at hc
  have hdigit := Decimal.isDigit_of_mem_toDigits hc
  refine ⟨?_, ?_, ?_⟩
  · rintro rfl
    cases hdigit
  · rintro rfl
    cases hdigit
  · rw [Bool.eq_false_iff]
    intro hblank
    simp only [isBlank, Bool.or_eq_true, beq_iff_eq] at hblank
    rcases hblank with rfl | rfl <;> cases hdigit

/-- A selection sets the cookie of the chain. -/
theorem setChain_eq (this : FrontendSession) (chain : HederaChain) : ∃ cookie : Cookie,
    cookie.name = chainCookieName ∧ cookie.value = numberText chain.id ∧
      this.setChain chain =
        { this with jar := setCookie this.jar cookie, chain := some chain } := by
  obtain ⟨hname, hread⟩ := parse_assignment chainCookieName_ok
    fun c hc => (numberText_ok chain c hc).2
  exact ⟨_, hname, hread, rfl⟩

/-- The selected chain is loaded. -/
theorem load_setChain {this : FrontendSession} {chain : HederaChain}
    (h : config.chainsWithDeployment.find? (fun other => (other.id : Int) = chain.id) =
      some chain) : (load config (this.setChain chain).jar).chain = some chain := by
  obtain ⟨cookie, hname, hvalue, heq⟩ := this.setChain_eq chain
  have hne : numberText chain.id ≠ [] := by
    rw [numberText_eq_toDigits chain.id_lt]
    exact Nat.toDigits_ne_nil
  have hwhole : (numberText chain.id).takeWhile (· != '=') = numberText chain.id := by
    rw [List.takeWhile_eq_self_iff]
    exact fun c hc => bne_iff_ne.mpr (numberText_ok chain c hc).1
  have hid : getSelectedChainIdCookieValue (documentCookie (this.setChain chain).jar) =
      some (chain.id : Int) := by
    rw [getSelectedChainIdCookieValue,
      getCookieValue_documentCookie fun c hc => (chainCookieName_ok c hc).1, heq,
      find_setCookie, if_pos hname, Option.map_some, hvalue, hwhole]
    exact (if_neg hne).trans (parseInt_numberText chain.id_lt)
  rw [load, hid]
  simp only [Option.some_inj, h, Option.some_or]

/-- Something else that sets a cookie sets one of another name. -/
def KeepsOurs : FrontendEvent → Prop
  | .otherCookie cookie => cookie.name ≠ passwordCookieName ∧ cookie.name ≠ chainCookieName
  | _ => True

/-- A selected chain is found in the configuration by its own identifier. -/
theorem find_of_selected {value : Text} {chain : HederaChain}
    (h : (config.chainsWithDeployment.find? fun other =>
      some (other.id : Int) = parseInt value) = some chain) :
    config.chainsWithDeployment.find? (fun other => (other.id : Int) = chain.id) = some chain := by
  have hparsed : some (chain.id : Int) = parseInt value := by simpa using List.find?_some h
  rw [← hparsed] at h
  simpa using h

/-- The chain of a page is the one that a load finds. -/
def Remembered (config : FrontendConfiguration) (this : FrontendSession) : Prop :=
  this.chain = (load config this.jar).chain

theorem Remembered.step {this : FrontendSession} (h : Remembered config this)
    {event : FrontendEvent} (hkeeps : KeepsOurs event) :
    Remembered config (this.step config event) := by
  cases event with
  | logIn password =>
      rw [FrontendSession.step]
      split
      · next session hok =>
          obtain ⟨_, cookie, hname, _, rfl⟩ := logIn_ok hok
          refine h.trans (load_chain_congr ?_)
          rw [find_setCookie, hname, if_neg cookieNames_ne]
      · exact h
  | selectChain value =>
      rw [FrontendSession.step, selectChain]
      split
      · next chain hfound => exact (load_setChain (find_of_selected hfound)).symm
      · exact h
  | otherCookie cookie =>
      refine h.trans (load_chain_congr ?_)
      rw [FrontendSession.step, find_setCookie, if_neg hkeeps.2]
  | reload => rfl

/-- A load selects one of the chains that can be selected, if there is any. -/
theorem load_chain_mem (jar : List Cookie) :
    (load config jar).chain = none ∧ config.chainsWithDeployment = [] ∨
      ∃ chain ∈ config.chainsWithDeployment, (load config jar).chain = some chain := by
  rw [load]
  dsimp only
  cases hfound : config.chainsWithDeployment.find? fun chain =>
    some (chain.id : Int) = getSelectedChainIdCookieValue (documentCookie jar) with
  | some chain => exact .inr ⟨chain, List.mem_of_find?_eq_some hfound, rfl⟩
  | none =>
      cases hchains : config.chainsWithDeployment with
      | nil => exact .inl ⟨rfl, rfl⟩
      | cons chain chains => exact .inr ⟨chain, List.mem_cons_self, rfl⟩

/-- In every run in which nothing else sets the cookie, a reload leaves the selected chain, and
it is one of the chains that can be selected. -/
theorem chain_run (jar : List Cookie) {events : List FrontendEvent}
    (hkeeps : ∀ event ∈ events, KeepsOurs event) :
    let this := EventRun.run (step config) (load config jar) events
    (this.step config .reload).chain = this.chain ∧
      (this.chain = none ∧ config.chainsWithDeployment = [] ∨
        ∃ chain ∈ config.chainsWithDeployment, this.chain = some chain) := by
  intro this
  have hstep (this : FrontendSession) (event : FrontendEvent) (h : Remembered config this)
      (hkeeps : KeepsOurs event) : Remembered config (this.step config event) := h.step hkeeps
  have hload : Remembered config (load config jar) := rfl
  have h : Remembered config this := EventRun.run_invariant_of_meets (step config) hstep hload
    (EventRun.meets_of_forall (step config) hkeeps _)
  refine ⟨h.symm, ?_⟩
  rw [h]
  exact load_chain_mem this.jar

/-- A configuration of the two chains, whose password has no padding, or else one. -/
def twoChains (hliquityPassword : String) : FrontendConfiguration :=
  ⟨hliquityPassword.toList, [⟨295, by decide⟩, ⟨296, by decide⟩]⟩

/-- The second chain, selected before a login. -/
theorem chain_run_second :
    let this := EventRun.run (step (twoChains "YWJj")) (load (twoChains "YWJj") [])
      [.selectChain "296".toList, .logIn "abc".toList]
    (this.step (twoChains "YWJj") .reload).chain = this.chain ∧
      (this.chain = none ∧ (twoChains "YWJj").chainsWithDeployment = [] ∨
        ∃ chain ∈ (twoChains "YWJj").chainsWithDeployment, this.chain = some chain) :=
  chain_run [] (by simp [KeepsOurs])

/-- The password of a page is the one that a load reads, or that of the environment, whose
cookie has been set. -/
def Encoded (config : FrontendConfiguration) (this : FrontendSession) : Prop :=
  this.encodedPassword = (load config this.jar).encodedPassword ∨
    this.encodedPassword = some config.hliquityPassword ∧
      (load config this.jar).encodedPassword =
        some (config.hliquityPassword.takeWhile (· != '='))

theorem load_encodedPassword_congr {jar other : List Cookie}
    (h : jar.find? (·.name = passwordCookieName) = other.find? (·.name = passwordCookieName)) :
    (load config jar).encodedPassword = (load config other).encodedPassword := by
  rw [load_encodedPassword, load_encodedPassword, h]

theorem Encoded.congr {this : FrontendSession} (h : Encoded config this) {other : FrontendSession}
    (hpassword : other.encodedPassword = this.encodedPassword)
    (hjar : other.jar.find? (·.name = passwordCookieName) =
      this.jar.find? (·.name = passwordCookieName)) : Encoded config other := by
  unfold Encoded
  rw [hpassword, load_encodedPassword_congr hjar]
  exact h

theorem Encoded.step {this : FrontendSession} (h : Encoded config this) {event : FrontendEvent}
    (hkeeps : KeepsOurs event) : Encoded config (this.step config event) := by
  cases event with
  | logIn password =>
      rw [FrontendSession.step]
      split
      · next session hok =>
          obtain ⟨_, cookie, hname, hvalue, rfl⟩ := logIn_ok hok
          refine .inr ⟨rfl, ?_⟩
          rw [load_encodedPassword, find_setCookie, if_pos hname, Option.map_some, hvalue]
      · exact h
  | selectChain value =>
      rw [FrontendSession.step, selectChain]
      split
      · next chain hfound =>
          obtain ⟨cookie, hname, _, heq⟩ := this.setChain_eq chain
          rw [heq]
          refine h.congr rfl ?_
          rw [find_setCookie, hname, if_neg cookieNames_ne.symm]
      · exact h
  | otherCookie cookie =>
      refine h.congr rfl ?_
      rw [FrontendSession.step, find_setCookie, if_neg hkeeps.1]
  | reload => exact .inl rfl

theorem encoded_run (jar : List Cookie) {events : List FrontendEvent}
    (hkeeps : ∀ event ∈ events, KeepsOurs event) :
    Encoded config (EventRun.run (step config) (load config jar) events) := by
  have hstep (this : FrontendSession) (event : FrontendEvent) (h : Encoded config this)
      (hkeeps : KeepsOurs event) : Encoded config (this.step config event) := h.step hkeeps
  exact EventRun.run_invariant_of_meets (step config) hstep (.inl rfl)
    (EventRun.meets_of_forall (step config) hkeeps _)

/-- What is read of a cookie is read again of itself. -/
theorem load_encodedPassword_takeWhile {jar : List Cookie} {encoded : Text}
    (h : (load config jar).encodedPassword = some encoded) :
    encoded.takeWhile (· != '=') = encoded := by
  rw [load_encodedPassword, Option.map_eq_some_iff] at h
  obtain ⟨cookie, _, rfl⟩ := h
  rw [List.takeWhile_eq_self_iff]
  intro c hc
  simpa using List.mem_takeWhile_imp hc

/-- With a password in the environment, a page is authenticated by that password alone. -/
theorem authenticated_iff {secret : Text} (hne : secret ≠ [])
    (hsecret : btoa secret = .ok config.hliquityPassword) (this : FrontendSession) :
    this.authenticated config = true ↔ this.encodedPassword = some config.hliquityPassword := by
  have hconfigured : config.hliquityPassword.isEmpty = false := by
    obtain ⟨_, hbytes⟩ := btoa_eq_ok.mp hsecret
    rw [← hbytes, List.isEmpty_eq_false_iff]
    exact Base64.encode_ne_nil (by simpa using hne)
  rw [authenticated, hconfigured, Bool.false_or, beq_iff_eq]

/-- In every run in which nothing else sets the cookie, a login survives a reload exactly if the
encoded password has no padding. -/
theorem reload_authenticated_run {secret : Text} (hne : secret ≠ [])
    (hsecret : btoa secret = .ok config.hliquityPassword) (jar : List Cookie)
    {events : List FrontendEvent} (hkeeps : ∀ event ∈ events, KeepsOurs event)
    (hauthenticated : (EventRun.run (step config) (load config jar) events).authenticated config =
      true) :
    ((EventRun.run (step config) (load config jar) events).step config .reload).authenticated
      config = true ↔ secret.length % 3 = 0 := by
  have h : Encoded config (EventRun.run (step config) (load config jar) events) :=
    encoded_run jar hkeeps
  rw [authenticated_iff hne hsecret] at hauthenticated ⊢
  rw [← takeWhile_btoa_iff hsecret]
  change (load config _).encodedPassword = _ ↔ _
  rcases h with hread | ⟨_, hread⟩
  · rw [hauthenticated] at hread
    rw [← hread]
    exact iff_of_true rfl (load_encodedPassword_takeWhile hread.symm)
  · rw [hread, Option.some_inj]

/-- A password of four letters is forgotten. -/
theorem reload_authenticated_run_four :
    ((EventRun.run (step (twoChains "YWJjZA==")) (load (twoChains "YWJjZA==") [])
      [.logIn "abcd".toList]).step (twoChains "YWJjZA==") .reload).authenticated
        (twoChains "YWJjZA==") = true ↔ "abcd".toList.length % 3 = 0 :=
  reload_authenticated_run (by decide) (by decide) [] (by simp [KeepsOurs]) (by decide)

/-- Nothing has been logged in with. -/
def LoggedOut (this : FrontendSession) : Prop :=
  this.encodedPassword = none ∧ this.jar.find? (·.name = passwordCookieName) = none

theorem LoggedOut.step {secret : Text} (hsecret : btoa secret = .ok config.hliquityPassword)
    {this : FrontendSession} (h : LoggedOut this) {event : FrontendEvent}
    (hkeeps : KeepsOurs event) (hevent : event ≠ .logIn secret) :
    LoggedOut (this.step config event) := by
  cases event with
  | logIn password =>
      rw [FrontendSession.step]
      split
      · next session hok =>
          have heq := btoa_injective (logIn_ok hok).1 hsecret
          exact absurd (congrArg FrontendEvent.logIn heq) hevent
      · exact h
  | selectChain value =>
      rw [FrontendSession.step, selectChain]
      split
      · next chain hfound =>
          obtain ⟨cookie, hname, _, heq⟩ := this.setChain_eq chain
          rw [heq]
          refine ⟨h.1, ?_⟩
          rw [find_setCookie, hname, if_neg cookieNames_ne.symm]
          exact h.2
      · exact h
  | otherCookie cookie =>
      refine ⟨h.1, ?_⟩
      rw [FrontendSession.step, find_setCookie, if_neg hkeeps.1]
      exact h.2
  | reload =>
      refine ⟨?_, h.2⟩
      rw [FrontendSession.step, load_encodedPassword, h.2]
      rfl

/-- In every run from cookies without a password, in which nothing else sets that cookie, a page
is authenticated only after a login with the password. -/
theorem authenticated_run {secret : Text} (hne : secret ≠ [])
    (hsecret : btoa secret = .ok config.hliquityPassword) {jar : List Cookie}
    (hjar : jar.find? (·.name = passwordCookieName) = none)
    {events : List FrontendEvent} (hkeeps : ∀ event ∈ events, KeepsOurs event)
    (hauthenticated : (EventRun.run (step config) (load config jar) events).authenticated config =
      true) : .logIn secret ∈ events := by
  by_contra hnever
  have hload : LoggedOut (load config jar) := by
    refine ⟨?_, hjar⟩
    rw [load_encodedPassword, hjar]
    rfl
  have hstep (this : FrontendSession) (event : FrontendEvent) (h : LoggedOut this)
      (hevent : KeepsOurs event ∧ event ≠ .logIn secret) : LoggedOut (this.step config event) :=
    h.step hsecret hevent.1 hevent.2
  have hmeets := EventRun.meets_of_forall (step config)
    (fun event hmem => (⟨hkeeps event hmem, fun heq => hnever (heq ▸ hmem)⟩ :
      KeepsOurs event ∧ event ≠ .logIn secret)) (load config jar)
  have hout := EventRun.run_invariant_of_meets (step config) hstep hload hmeets
  rw [authenticated_iff hne hsecret, hout.1] at hauthenticated
  cases hauthenticated

/-- The second of two passwords is the right one. -/
theorem authenticated_run_second : .logIn "abc".toList ∈
    [FrontendEvent.logIn "abd".toList, .logIn "abc".toList] :=
  @authenticated_run (twoChains "YWJj") _ (by decide) (by decide) [] rfl _ (by simp [KeepsOurs])
    (by decide)

end FrontendSession

end HLiquity
