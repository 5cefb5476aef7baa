import BandBPools.Credential.EmailAddress

/-!
# The credential gate of the login screen

`handleSignup` and `handleLogin` read the text fields, check them and either
send one request or present one alert.  Both are embedded as the list of
effects they have, in order.  The two nests of checks were written separately;
the theorems below say what each of them lets through, which alert it presents
otherwise, and that log-in lets through whatever sign-up does.
-/

namespace BandBPools.Credential

/-! ## Fields, alerts and effects -/

/-- The `text` of the three fields, which UIKit types as optional. -/
structure TextFields where
  userField : Option Text
  emailField : Option Text
  passwordField : Option Text

/-- A `UIAlertController` with its one action. -/
structure Alert where
  title : String
  message : String
  action : String
deriving DecidableEq, Repr

/-- `LoginViewController.isEmptyFieldAlert()` -/
def isEmptyFieldAlert : Alert where
  title := "Invalid Entries"
  message := "Please enter a valid address and password"
  action := "Retry"

/-- `LoginViewController.isInvalidEmailAlert()` -/
def isInvalidEmailAlert : Alert where
  title := "Invalid E-Mail Address"
  message := "Please enter a valid address"
  action := "Retry"

/-- `LoginViewController.isInvalidPasswordAlert()` -/
def isInvalidPasswordAlert : Alert where
  title := "Invalid Password"
  message :=
    "Please enter a valid password between 6 and 12 characters"
  action := "Retry"

/-- What a submit handler does to the outside. -/
inductive Effect where
  | createUser (email password : Text)
  | signIn (email password : Text)
  | present (alert : Alert)
deriving DecidableEq

/-- The effects that ask Firebase for something. -/
def Effect.isRequest : Effect → Bool
  | .createUser _ _ => true
  | .signIn _ _ => true
  | .present _ => false

/-! ## The handlers -/

/-- The checks on a password's `count`, the same in both handlers. -/
def hasValidCount (password : Text) : Bool :=
  password.count ≥ 6 && password.count ≤ 12

/-- `LoginViewController.handleSignup()` -/
def handleSignup (fields : TextFields) : List Effect :=
  match fields.userField, fields.emailField, fields.passwordField with
  | some username, some email, some password =>
      if password.isEmpty == false && email.isEmpty == false &&
          username.isEmpty == false then
        if isValidEmail email then
          if hasValidCount password then
            [.createUser email password]
          else
            [.present isInvalidPasswordAlert]
        else
          [.present isInvalidEmailAlert]
      else
        [.present isEmptyFieldAlert]
  | _, _, _ => []

/-- `LoginViewController.handleLogin()` -/
def handleLogin (fields : TextFields) : List Effect :=
  if fields.passwordField.map List.isEmpty == some false &&
      fields.emailField.map List.isEmpty == some false then
    match fields.emailField, fields.passwordField with
    | some email, some password =>
        if isValidEmail email then
          if hasValidCount password then
            [.signIn email password]
          else
            [.present isInvalidPasswordAlert]
        else
          [.present isInvalidEmailAlert]
    | _, _ => []
  else
    [.present isEmptyFieldAlert]

/-! ## The gate as a decision -/

/-- The fields of a login screen on which text has been typed. -/
def typed (username email password : Text) : TextFields where
  userField := some username
  emailField := some email
  passwordField := some password

/-- A password of 6 to 12 Characters. -/
def HasPasswordLength (password : Text) : Prop :=
  6 ≤ password.count ∧ password.count ≤ 12

instance : DecidablePred HasPasswordLength := fun _ =>
  inferInstanceAs (Decidable (_ ∧ _))

/-- An email address with a password that may be submitted. -/
def IsCredential (email password : Text) : Prop :=
  IsEmailAddress email.unicodeScalars ∧ HasPasswordLength password

instance (email password : Text) : Decidable (IsCredential email password) :=
  inferInstanceAs (Decidable (_ ∧ _))

/-- The alert for a submission that is turned down: the first check that
fails picks it. -/
def refusal (someEmpty : Prop) [Decidable someEmpty] (email : Text) :
    Alert :=
  if someEmpty then
    isEmptyFieldAlert
  else if IsEmailAddress email.unicodeScalars then
    isInvalidPasswordAlert
  else
    isInvalidEmailAlert

/-- What a handler should do once it has a request to send and knows whether
a field it requires is empty. -/
def gate (request : Effect) (someEmpty : Prop) [Decidable someEmpty]
    (email password : Text) : Effect :=
  if ¬ someEmpty ∧ IsCredential email password then
    request
  else
    .present (refusal someEmpty email)

@[simp]
theorem hasValidCount_iff (password : Text) :
    hasValidCount password = true ↔ HasPasswordLength password := by
  simp [hasValidCount, HasPasswordLength]

theorem handleSignup_typed (username email password : Text) :
    handleSignup (typed username email password) =
      [gate (.createUser email password)
        (username = [] ∨ email = [] ∨ password = []) email password] := by
  simp only [handleSignup, typed, gate, refusal, IsCredential,
    ← isValidEmail_iff, ← hasValidCount_iff]
  cases username <;> cases email <;> cases password <;>
    simp only [List.isEmpty_nil, List.isEmpty_cons] <;> simp
  split_ifs <;> simp_all

theorem handleLogin_typed (username email password : Text) :
    handleLogin (typed username email password) =
      [gate (.signIn email password)
        (email = [] ∨ password = []) email password] := by
  simp only [handleLogin, typed, gate, refusal, IsCredential,
    ← isValidEmail_iff, ← hasValidCount_iff]
  cases email <;> cases password <;>
    simp only [Option.map_some, List.isEmpty_nil, List.isEmpty_cons] <;>
    simp
  split_ifs <;> simp_all

/-! ## The shape of a submission -/

/-- A submission sends one request or presents alerts. -/
theorem handleSignup_effects (fields : TextFields) :
    (∃ email password,
        handleSignup fields = [.createUser email password]) ∨
      ∃ alerts, handleSignup fields = List.map .present alerts := by
  unfold handleSignup
  split
  · split_ifs
    · exact Or.inl ⟨_, _, rfl⟩
    · exact Or.inr ⟨[isInvalidPasswordAlert], rfl⟩
    · exact Or.inr ⟨[isInvalidEmailAlert], rfl⟩
    · exact Or.inr ⟨[isEmptyFieldAlert], rfl⟩
  · exact Or.inr ⟨[], rfl⟩

theorem handleLogin_effects (fields : TextFields) :
    (∃ email password,
        handleLogin fields = [.signIn email password]) ∨
      ∃ alerts, handleLogin fields = List.map .present alerts := by
  unfold handleLogin
  split_ifs
  · split
    · split_ifs
      · exact Or.inl ⟨_, _, rfl⟩
      · exact Or.inr ⟨[isInvalidPasswordAlert], rfl⟩
      · exact Or.inr ⟨[isInvalidEmailAlert], rfl⟩
    · exact Or.inr ⟨[], rfl⟩
  · exact Or.inr ⟨[isEmptyFieldAlert], rfl⟩

/-! ## What passes the gate -/

/-- The empty text is no email address. -/
theorem not_isEmailAddress_nil :
    ¬ IsEmailAddress (Text.unicodeScalars []) := by decide

theorem not_hasPasswordLength_nil :
    ¬ HasPasswordLength [] := by decide

/-- A credential has no empty field. -/
theorem IsCredential.nonempty {email password : Text}
    (credential : IsCredential email password) :
    email ≠ [] ∧ password ≠ [] := by
  constructor
  · rintro rfl
    exact not_isEmailAddress_nil credential.1
  · rintro rfl
    exact not_hasPasswordLength_nil credential.2

theorem gate_of_accepted
    {request : Effect} {someEmpty : Prop} [Decidable someEmpty]
    {email password : Text}
    (accepted : ¬ someEmpty ∧ IsCredential email password) :
    gate request someEmpty email password = request :=
  if_pos accepted

theorem gate_of_refused
    {request : Effect} {someEmpty : Prop} [Decidable someEmpty]
    {email password : Text}
    (refused : ¬ (¬ someEmpty ∧ IsCredential email password)) :
    gate request someEmpty email password =
      .present (refusal someEmpty email) :=
  if_neg refused

theorem gate_eq_request_iff
    {request : Effect} (isRequest : request.isRequest = true)
    {someEmpty : Prop} [Decidable someEmpty] {email password : Text} :
    gate request someEmpty email password = request ↔
      ¬ someEmpty ∧ IsCredential email password := by
  constructor
  · intro equal
    by_contra refused
    rw [gate_of_refused refused] at equal
    rw [← equal, Effect.isRequest] at isRequest
    exact Bool.noConfusion isRequest
  · exact gate_of_accepted

/-- Sign-up accepts a credential together with a username. -/
theorem signup_accepts_iff (username email password : Text) :
    ¬ (username = [] ∨ email = [] ∨ password = []) ∧
        IsCredential email password ↔
      username ≠ [] ∧ IsCredential email password := by
  constructor
  · rintro ⟨noneEmpty, credential⟩
    exact ⟨fun empty => noneEmpty (Or.inl empty), credential⟩
  · rintro ⟨named, credential⟩
    constructor
    · rintro (empty | empty | empty)
      · exact named empty
      · exact credential.nonempty.1 empty
      · exact credential.nonempty.2 empty
    · exact credential

/-- Log-in accepts a credential. -/
theorem login_accepts_iff (email password : Text) :
    ¬ (email = [] ∨ password = []) ∧ IsCredential email password ↔
      IsCredential email password := by
  constructor
  · exact fun both => both.2
  · intro credential
    constructor
    · rintro (empty | empty)
      · exact credential.nonempty.1 empty
      · exact credential.nonempty.2 empty
    · exact credential

theorem handleSignup_eq_request_iff (username email password : Text) :
    handleSignup (typed username email password) =
        [.createUser email password] ↔
      username ≠ [] ∧ IsCredential email password := by
  rw [handleSignup_typed, List.singleton_inj, gate_eq_request_iff rfl,
    signup_accepts_iff]

theorem handleLogin_eq_request_iff (username email password : Text) :
    handleLogin (typed username email password) =
        [.signIn email password] ↔
      IsCredential email password := by
  rw [handleLogin_typed, List.singleton_inj, gate_eq_request_iff rfl,
    login_accepts_iff]

/--
The gate is exact and agrees between the two handlers.  Each of them sends
its request exactly for a credential, sign-up only with a username; log-in
submits whatever sign-up submits; and a submission that is turned down sends
nothing and presents the one alert of the first check that fails.
-/
theorem credentialGate_exact (username email password : Text) :
    (handleSignup (typed username email password) =
          [.createUser email password] ↔
        username ≠ [] ∧ IsEmailAddress email.unicodeScalars ∧
          6 ≤ password.count ∧ password.count ≤ 12) ∧
      (handleLogin (typed username email password) =
          [.signIn email password] ↔
        IsEmailAddress email.unicodeScalars ∧
          6 ≤ password.count ∧ password.count ≤ 12) ∧
      (handleSignup (typed username email password) =
          [.createUser email password] →
        handleLogin (typed username email password) =
          [.signIn email password]) ∧
      (handleSignup (typed username email password) ≠
          [.createUser email password] →
        handleSignup (typed username email password) =
          [.present (refusal
            (username = [] ∨ email = [] ∨ password = []) email)]) ∧
      (handleLogin (typed username email password) ≠
          [.signIn email password] →
        handleLogin (typed username email password) =
          [.present (refusal (email = [] ∨ password = []) email)]) := by
  refine ⟨handleSignup_eq_request_iff username email password,
    handleLogin_eq_request_iff username email password, ?_, ?_, ?_⟩
  · intro submitted
    rw [handleSignup_eq_request_iff] at submitted
    exact (handleLogin_eq_request_iff _ _ _).mpr submitted.2
  · intro refused
    rw [Ne, handleSignup_eq_request_iff, ← signup_accepts_iff] at refused
    rw [handleSignup_typed, gate_of_refused refused]
  · intro refused
    rw [Ne, handleLogin_eq_request_iff, ← login_accepts_iff] at refused
    rw [handleLogin_typed, gate_of_refused refused]

/-! ## What is sent -/

/-- What an effect sends to Firebase is a credential. -/
def Effect.Credentialed : Effect → Prop
  | .createUser email password | .signIn email password =>
      IsCredential email password
  | .present _ => True

theorem gate_credentialed {request : Effect} {email password : Text}
    (sent : IsCredential email password → request.Credentialed)
    (someEmpty : Prop) [Decidable someEmpty] :
    (gate request someEmpty email password).Credentialed := by
  unfold gate
  split
  · next accepted => exact sent accepted.2
  · exact True.intro

theorem handleSignup_credentialed (fields : TextFields) :
    ∀ effect ∈ handleSignup fields, effect.Credentialed := by
  intro effect member
  rcases fields with ⟨_ | username, _ | email, _ | password⟩
  case some.some.some =>
    have typedIn := handleSignup_typed username email password
    rw [typed] at typedIn
    rw [typedIn, List.mem_singleton] at member
    rw [member]
    exact gate_credentialed id _
  all_goals simp [handleSignup] at member

/-- Log-in does not look at the username. -/
theorem handleLogin_credentialed (fields : TextFields) :
    ∀ effect ∈ handleLogin fields, effect.Credentialed := by
  intro effect member
  rcases fields with ⟨username, _ | email, _ | password⟩
  case some.some =>
    change effect ∈
      handleLogin (typed (username.getD []) email password) at member
    rw [handleLogin_typed, List.mem_singleton] at member
    rw [member]
    exact gate_credentialed id _
  all_goals
    have refused : effect = .present isEmptyFieldAlert := by
      simpa [handleLogin] using member
    rw [refused]
    exact True.intro

end BandBPools.Credential
