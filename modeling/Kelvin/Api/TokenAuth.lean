import Kelvin.Data.SignedTokens
import Kelvin.Api.GroupLookup

/-!
# Tokens and rights

A login with a password gives a token that says which of the two API groups the user is in. Later
requests show the token; the user is looked up again, the groups are not (`ldap.py`,
`token_auth.py`, the token route of `main.py`).

* `checkAuthAndGetUser`, `loginForAccessToken`: the login.
* `getCurrentUser`, `getKelvinAdmin`, `getKelvinReader`: what a token allows.
* `authorize_iff`: a request is let in for a login that came before it, if the token of the login
  has not expired and the user can still be found and is active.
* `rights_end`: after the right has been taken from a user, tokens carry it on for their lifetime
  and no longer.
-/

namespace Kelvin

namespace TokenAuth

/-! ## The directory -/

/-- The attributes of a user that are read. -/
structure UserEntry where
  dn : String
  uid : String
  displayName : Option String
  sambaAcctFlags : Option String
  krb5KdcFlags : Option Int
  shadowExpire : Option Int
  ucsschoolSchool : List String
  ucsschoolRole : List String
deriving DecidableEq

/-- The attributes of a group that are read. -/
structure GroupEntry where
  cn : String
  uniqueMember : List String

/-- The directory at one time: its users, the groups under `cn=groups`, the passwords that it
accepts, and the entries that can be read with or without a bind. -/
structure Directory where
  users : List UserEntry
  groups : List GroupEntry
  passwords : String → String → Bool
  readable : Option String → UserEntry → Bool

/-- The content of `sub` in a token. -/
structure Subject where
  username : Option String
  kelvinAdmin : Option Bool
  kelvinReader : Option Bool
  schools : List String
  roles : List String

/-- The content of a token. Its expiry is in seconds. -/
structure Claims where
  sub : Option Subject
  exp : Int

/-- Times are in microseconds. -/
def Claims.expiry (claims : Claims) : Int := claims.exp * 1000000

/-- The libraries: the tokens of `jwt`, the matching rules of the directory, and the comparison of
`shadowExpire` with the time in days, a floating point number. -/
class AuthRuntime (Token : Type) extends Signer Claims Token where
  expiry_eq : ∀ claims, expiry claims = claims.expiry
  uidMatches : String → String → Bool
  cnMatches : String → String → Bool
  shadowExpired : Int → Int → Bool

inductive AuthExc where
  | http (e : HttpException)
  | bindError
  | moreThanOneResult (username : String)
  | typeError (message : String)
  | attributeError (message : String)
deriving DecidableEq

/-- `credentials_exception`. -/
def credentialsException : AuthExc := .http ⟨401, "Could not validate credentials"⟩

structure LdapUser where
  username : String
  fullName : Option String
  disabled : Bool
  dn : String
  kelvinAdmin : Bool
  kelvinReader : Bool
  schools : List String
  roles : List String
deriving DecidableEq

section Functions

variable (Token : Type) [AuthRuntime Token]

/-- `group_members`. -/
def groupMembers (directory : Directory) (group : String) : List String :=
  match directory.groups.filter (fun g => AuthRuntime.cnMatches Token group g.cn) with
  | [result] => result.uniqueMember
  | _ => []

/-- `admin_group_members`. -/
def adminGroupMembers (directory : Directory) : List String :=
  groupMembers Token directory "ucsschool-kelvin-rest-api-admins"

/-- `reader_group_members`. -/
def readerGroupMembers (directory : Directory) : List String :=
  groupMembers Token directory "ucsschool-kelvin-rest-api-readers"

/-- The users that a search for the name finds. -/
def Directory.found (directory : Directory) (username : String) : List UserEntry :=
  directory.users.filter (fun user => AuthRuntime.uidMatches Token username user.uid)

/-- The users that a search for the name finds after a bind, or without one. -/
def Directory.foundBy (directory : Directory) (reader : Option String) (username : String) :
    List UserEntry :=
  (directory.found Token username).filter (directory.readable reader)

/-- `user_is_disabled`. -/
def userIsDisabled (now : Int) (user : UserEntry) : Except AuthExc Bool :=
  match user.sambaAcctFlags with
  | none => .error (.typeError "argument of type 'NoneType' is not iterable")
  | some flags => .ok (decide ('D' ∈ flags.toList) || decide (user.krb5KdcFlags = some 254) ||
      user.shadowExpire.any (AuthRuntime.shadowExpired Token · now))

/-- `LdapUser`, without the rights. -/
def LdapUser.ofEntry (user : UserEntry) (disabled : Bool) : LdapUser where
  username := user.uid
  fullName := user.displayName
  disabled := disabled
  dn := user.dn
  kelvinAdmin := false
  kelvinReader := false
  schools := user.ucsschoolSchool
  roles := user.ucsschoolRole

/-- `get_user` for any kind of user, with a bind or without one. -/
def getUser (directory : Directory) (now : Int) (username : String)
    (bind : Option (String × String)) : Except AuthExc (Option LdapUser) :=
  if bind.any (fun b => !directory.passwords b.1 b.2) then .error .bindError
  else match directory.foundBy Token (bind.map Prod.fst) username with
    | [] => .ok none
    | [result] => do
      let disabled ← userIsDisabled Token now result
      pure (some (LdapUser.ofEntry result disabled))
    | _ => .error (.moreThanOneResult username)

/-- `get_dn_of_user`. -/
def getDnOfUser (directory : Directory) (username : String) : Except AuthExc String :=
  match directory.found Token username with
  | [] => .ok ""
  | [result] => .ok result.dn
  | _ => .error (.moreThanOneResult username)

/-- `except BindError: user = None`. -/
def exceptBindError : Except AuthExc (Option LdapUser) → Except AuthExc (Option LdapUser)
  | .error .bindError => .ok none
  | result => result

/-- `check_auth_and_get_user`. -/
def checkAuthAndGetUser (directory : Directory) (now : Int) (username password : String) :
    Except AuthExc (Option LdapUser) := do
  let userDn ← getDnOfUser Token directory username
  if userDn = "" then pure none
  else
    let user ← exceptBindError (getUser Token directory now username (some (userDn, password)))
    pure (user.map (fun user =>
      { user with
        kelvinAdmin := decide (userDn ∈ adminGroupMembers Token directory)
        kelvinReader := decide (userDn ∈ readerGroupMembers Token directory) }))

/-- The content of the token that `create_access_token` makes. A lifetime of zero minutes counts
as none. -/
def accessClaims (now tokenTtl : Int) (data : Subject) (expiresDelta : Option Int) : Claims where
  sub := some data
  exp := (now + (if expiresDelta.any (fun delta => delta ≠ 0) then expiresDelta.getD tokenTtl
    else tokenTtl) * 60000000) / 1000000

/-- The content of the token that `login_for_access_token` makes. -/
def loginClaims (directory : Directory) (now tokenTtl : Int) (username password : String) :
    Except AuthExc Claims := do
  match ← checkAuthAndGetUser Token directory now username password with
  | none => .error (.http ⟨401, "Incorrect username or password"⟩)
  | some user => pure (accessClaims now tokenTtl
      { username := some user.username
        kelvinAdmin := some user.kelvinAdmin
        kelvinReader := some user.kelvinReader
        schools := user.schools
        roles := user.roles } (some tokenTtl))

/-- `login_for_access_token`. -/
def loginForAccessToken (directory : Directory) (now tokenTtl : Int) (username password : String) :
    Except AuthExc Token :=
  (loginClaims Token directory now tokenTtl username password).map Signer.encode

variable {Token}

/-- `get_current_user`. -/
def getCurrentUser (directory : Directory) (now : Int) (token : Token) : Except AuthExc LdapUser :=
  match (Signer.decode now token : Option Claims) with
  | none => .error credentialsException
  | some payload => match payload.sub with
    | none => .error (.attributeError "'NoneType' object has no attribute 'get'")
    | some sub =>
      let username := sub.username.getD ""
      if username = "" then .error credentialsException
      else do
        match ← getUser Token directory now username none with
        | none => .error credentialsException
        | some user => pure { user with
            kelvinAdmin := sub.kelvinAdmin.getD false
            kelvinReader := sub.kelvinReader.getD false }

/-- `get_current_active_user`. -/
def getCurrentActiveUser (directory : Directory) (now : Int) (token : Token) :
    Except AuthExc LdapUser := do
  let currentUser ← getCurrentUser directory now token
  if currentUser.disabled then .error (.http ⟨401, "Inactive user"⟩) else pure currentUser

/-- `get_kelvin_admin`. -/
def getKelvinAdmin (directory : Directory) (now : Int) (token : Token) : Except AuthExc LdapUser := do
  let user ← getCurrentActiveUser directory now token
  if user.kelvinAdmin then pure user else .error (.http ⟨401, "Unauthorized"⟩)

/-- `get_kelvin_reader`. -/
def getKelvinReader (directory : Directory) (now : Int) (token : Token) :
    Except AuthExc LdapUser := do
  let user ← getCurrentActiveUser directory now token
  if user.kelvinAdmin || user.kelvinReader then pure user
  else .error (.http ⟨401, "Unauthorized"⟩)

end Functions

/-! ## What the functions do -/

/-- What is configured and stored when something happens. -/
structure Moment where
  now : Int
  directory : Directory
  tokenTtl : Int

section Specification

variable (Token : Type) [AuthRuntime Token]

/-- The password is that of the only user that the name finds, and with it an account is found. -/
structure Accepted (m : Moment) (username password dn : String) (account : UserEntry) : Prop where
  only : (m.directory.found Token username).map UserEntry.dn = [dn]
  named : dn ≠ ""
  password : m.directory.passwords dn password = true
  found : m.directory.foundBy Token (some dn) username = [account]
  flags : account.sambaAcctFlags ≠ none

/-- The content of the token for a login. -/
def tokenClaims (m : Moment) (dn : String) (account : UserEntry) : Claims :=
  accessClaims m.now m.tokenTtl
    { username := some account.uid
      kelvinAdmin := some (decide (dn ∈ adminGroupMembers Token m.directory))
      kelvinReader := some (decide (dn ∈ readerGroupMembers Token m.directory))
      schools := account.ucsschoolSchool
      roles := account.ucsschoolRole } (some m.tokenTtl)

/-- Tokens expire in the second in which their lifetime ends. -/
theorem expiry_tokenClaims (m : Moment) (dn : String) (account : UserEntry) :
    (tokenClaims Token m dn account).expiry =
      (m.now + m.tokenTtl * 60000000) / 1000000 * 1000000 := by
  unfold tokenClaims accessClaims Claims.expiry
  by_cases hzero : m.tokenTtl = 0 <;> simp [hzero]

theorem expiry_tokenClaims_le (m : Moment) (dn : String) (account : UserEntry) :
    (tokenClaims Token m dn account).expiry ≤ m.now + m.tokenTtl * 60000000 := by
  have h := expiry_tokenClaims Token m dn account
  omega

variable {Token} {directory : Directory} {now : Int} {username password : String}

theorem userIsDisabled_isOk {user : UserEntry} :
    (∃ disabled, userIsDisabled Token now user = .ok disabled) ↔ user.sambaAcctFlags ≠ none := by
  unfold userIsDisabled
  cases user.sambaAcctFlags <;> simp

theorem getDnOfUser_eq_ok {dn : String} (hdn : dn ≠ "") :
    getDnOfUser Token directory username = .ok dn ↔
      (directory.found Token username).map UserEntry.dn = [dn] := by
  unfold getDnOfUser
  split
  · next h =>
    rw [h]
    simp [hdn.symm]
  · next user h =>
    rw [h]
    simp
  · next h _ hsingle =>
    constructor
    · intro h
      cases h
    · intro hmap
      obtain ⟨user, huser, -⟩ := List.map_eq_singleton_iff.mp hmap
      exact absurd huser (hsingle user)

/-- A user is found if the bind is accepted and the search finds one account. -/
theorem getUser_eq_some {bind : Option (String × String)} {user : LdapUser} :
    getUser Token directory now username bind = .ok (some user) ↔
      (∀ b, bind = some b → directory.passwords b.1 b.2 = true) ∧
        ∃ account disabled, directory.foundBy Token (bind.map Prod.fst) username = [account] ∧
          userIsDisabled Token now account = .ok disabled ∧
            user = LdapUser.ofEntry account disabled := by
  have hbind : (bind.any fun b => !directory.passwords b.1 b.2) = false ↔
      ∀ b, bind = some b → directory.passwords b.1 b.2 = true := by
    cases bind <;> simp
  rw [← hbind]
  unfold getUser
  split
  · next h => simp [h]
  · next h =>
    rw [Bool.not_eq_true] at h
    simp only [h, true_and]
    split
    · next hfound => simp [hfound]
    · next result hfound =>
      simp only [bind_eq_ok, pure_eq_ok, hfound, List.cons.injEq, and_true, Option.some.injEq]
      constructor
      · rintro ⟨disabled, hdisabled, rfl⟩
        exact ⟨result, disabled, rfl, hdisabled, rfl⟩
      · rintro ⟨account, disabled, rfl, hdisabled, rfl⟩
        exact ⟨disabled, hdisabled, rfl⟩
    · next hsingle =>
      constructor
      · intro h
        cases h
      · rintro ⟨account, disabled, hfound, -⟩
        exact absurd hfound (hsingle account)

/-- A login gets a token if and only if its password is accepted. -/
theorem loginClaims_eq_ok {m : Moment} {claims : Claims} :
    loginClaims Token m.directory m.now m.tokenTtl username password = .ok claims ↔
      ∃ dn account, Accepted Token m username password dn account ∧
        claims = tokenClaims Token m dn account := by
  unfold loginClaims checkAuthAndGetUser
  simp only [bind_eq_ok]
  constructor
  · rintro ⟨user?, ⟨dn, hdn, huser⟩, hclaims⟩
    split at huser
    · cases huser
      cases hclaims
    · next hne =>
      obtain ⟨found, hfound, huser⟩ := bind_eq_ok.mp huser
      obtain rfl := pure_eq_ok.mp huser
      cases found with
      | none => cases hclaims
      | some user =>
        obtain rfl := pure_eq_ok.mp hclaims
        have hget : getUser Token m.directory m.now username (some (dn, password)) =
            .ok (some user) := by
          unfold exceptBindError at hfound
          split at hfound
          · cases hfound
          · exact hfound
        obtain ⟨hpassword, account, disabled, haccount, hdisabled, rfl⟩ := getUser_eq_some.mp hget
        exact ⟨dn, account, ⟨(getDnOfUser_eq_ok hne).mp hdn, hne, hpassword _ rfl, haccount,
          userIsDisabled_isOk.mp ⟨disabled, hdisabled⟩⟩, rfl⟩
  · rintro ⟨dn, account, haccepted, rfl⟩
    obtain ⟨disabled, hdisabled⟩ : ∃ disabled, userIsDisabled Token m.now account = .ok disabled :=
      userIsDisabled_isOk.mpr haccepted.flags
    have hget : getUser Token m.directory m.now username (some (dn, password)) =
        .ok (some (LdapUser.ofEntry account disabled)) := by
      refine getUser_eq_some.mpr ⟨?_, account, disabled, haccepted.found, hdisabled, rfl⟩
      rintro b ⟨⟩
      exact haccepted.password
    refine ⟨some { LdapUser.ofEntry account disabled with
        kelvinAdmin := decide (dn ∈ adminGroupMembers Token m.directory)
        kelvinReader := decide (dn ∈ readerGroupMembers Token m.directory) },
      ⟨dn, (getDnOfUser_eq_ok haccepted.named).mpr haccepted.only, ?_⟩, ?_⟩
    · rw [if_neg haccepted.named, hget]
      rfl
    · rfl

/-! ## Rights -/

/-- What the routes ask for. -/
inductive Right where
  | reader
  | admin

/-- `get_kelvin_reader` or `get_kelvin_admin`. -/
def authorize (directory : Directory) (now : Int) :
    Right → Token → Except AuthExc LdapUser
  | .reader => getKelvinReader directory now
  | .admin => getKelvinAdmin directory now

/-- The rights that a token gives. -/
def Subject.Allows (sub : Subject) : Right → Prop
  | .reader => sub.kelvinAdmin.getD false = true ∨ sub.kelvinReader.getD false = true
  | .admin => sub.kelvinAdmin.getD false = true

/-- The user as the routes get it. -/
def currentUser (sub : Subject) (account : UserEntry) : LdapUser :=
  { LdapUser.ofEntry account false with
    kelvinAdmin := sub.kelvinAdmin.getD false
    kelvinReader := sub.kelvinReader.getD false }

variable (Token) in
/-- The one account that is found for a name is active. -/
structure Active (directory : Directory) (now : Int) (username : String) (account : UserEntry) :
    Prop where
  found : directory.foundBy Token none username = [account]
  active : userIsDisabled Token now account = .ok false

theorem getCurrentActiveUser_eq_ok {token : Token} {user : LdapUser} :
    getCurrentActiveUser directory now token = .ok user ↔
      ∃ sub exp account, (Signer.decode now token : Option Claims) = some ⟨some sub, exp⟩ ∧
        sub.username.getD "" ≠ "" ∧
          Active Token directory now (sub.username.getD "") account ∧
            user = currentUser sub account := by
  unfold getCurrentActiveUser getCurrentUser
  simp only [bind_eq_ok]
  constructor
  · rintro ⟨current, hcurrent, huser⟩
    split at hcurrent
    · cases hcurrent
    · next payload hpayload =>
      obtain ⟨sub?, exp⟩ := payload
      cases sub? with
      | none => cases hcurrent
      | some sub =>
        dsimp only at hcurrent
        split at hcurrent
        · cases hcurrent
        · next hne =>
          obtain ⟨found, hfound, hcurrent⟩ := bind_eq_ok.mp hcurrent
          cases found with
          | none => cases hcurrent
          | some found =>
            obtain rfl := pure_eq_ok.mp hcurrent
            obtain ⟨-, account, disabled, haccount, hdisabled, rfl⟩ := getUser_eq_some.mp hfound
            cases disabled with
            | true => cases huser
            | false =>
              obtain rfl := pure_eq_ok.mp huser
              exact ⟨sub, exp, account, hpayload, hne, ⟨haccount, hdisabled⟩, rfl⟩
  · rintro ⟨sub, exp, account, hpayload, hne, hactive, rfl⟩
    have hget : getUser Token directory now (sub.username.getD "") none =
        .ok (some (LdapUser.ofEntry account false)) := by
      refine getUser_eq_some.mpr ⟨?_, account, false, hactive.found, hactive.active, rfl⟩
      rintro b ⟨⟩
    refine ⟨currentUser sub account, ?_, rfl⟩
    rw [hpayload]
    dsimp only
    rw [if_neg hne, hget]
    rfl

/-- A token lets a request in if it can be read, allows the request, and names an active user. -/
theorem authorize_eq_ok {right : Right} {token : Token} {user : LdapUser} :
    authorize directory now right token = .ok user ↔
      ∃ sub exp account, (Signer.decode now token : Option Claims) = some ⟨some sub, exp⟩ ∧
        sub.username.getD "" ≠ "" ∧
          Active Token directory now (sub.username.getD "") account ∧
            sub.Allows right ∧ user = currentUser sub account := by
  have hcheck : authorize directory now right token = .ok user ↔
      getCurrentActiveUser directory now token = .ok user ∧
        (user.kelvinAdmin = true ∨ right = .reader ∧ user.kelvinReader = true) := by
    cases right with
    | reader =>
      show getKelvinReader directory now token = .ok user ↔ _
      unfold getKelvinReader
      simp only [bind_eq_ok, true_and]
      constructor
      · rintro ⟨current, hcurrent, h⟩
        split at h
        · next hallowed =>
          obtain rfl := pure_eq_ok.mp h
          exact ⟨hcurrent, (Bool.or_eq_true _ _).mp hallowed⟩
        · cases h
      · rintro ⟨hcurrent, hallowed⟩
        exact ⟨user, hcurrent, if_pos ((Bool.or_eq_true _ _).mpr hallowed)⟩
    | admin =>
      show getKelvinAdmin directory now token = .ok user ↔ _
      unfold getKelvinAdmin
      simp only [bind_eq_ok, reduceCtorEq, false_and, or_false]
      constructor
      · rintro ⟨current, hcurrent, h⟩
        split at h
        · next hallowed =>
          obtain rfl := pure_eq_ok.mp h
          exact ⟨hcurrent, hallowed⟩
        · cases h
      · rintro ⟨hcurrent, hallowed⟩
        exact ⟨user, hcurrent, if_pos hallowed⟩
  have hallows : ∀ sub account, ((currentUser sub account).kelvinAdmin = true ∨
      right = .reader ∧ (currentUser sub account).kelvinReader = true) ↔ sub.Allows right := by
    intro sub account
    cases right <;> simp [currentUser, Subject.Allows]
  rw [hcheck, getCurrentActiveUser_eq_ok]
  constructor
  · rintro ⟨⟨sub, exp, account, hpayload, hne, hactive, rfl⟩, hright⟩
    exact ⟨sub, exp, account, hpayload, hne, hactive, (hallows sub account).mp hright, rfl⟩
  · rintro ⟨sub, exp, account, hpayload, hne, hactive, hright, rfl⟩
    exact ⟨⟨sub, exp, account, hpayload, hne, hactive, rfl⟩, (hallows sub account).mpr hright⟩

end Specification

/-! ## Runs -/

/-- The calls of the API that have to do with tokens. -/
inductive Call (Token : Type) where
  | login (username password : String)
  | request (right : Right) (token : Token)

section Runs

variable {Token : Type} [AuthRuntime Token]

/-- The content of the token that a call gives. -/
def issued : Moment × Call Token → Option Claims
  | (m, .login username password) =>
    (loginClaims Token m.directory m.now m.tokenTtl username password).toOption
  | (_, .request _ _) => none

def presented : Moment × Call Token → Option (Int × Token)
  | (_, .login _ _) => none
  | (m, .request _ token) => some (m.now, token)

theorem issued_eq_some {e : Moment × Call Token} {claims : Claims} :
    issued e = some claims ↔ ∃ m username password dn account,
      e = (m, .login username password) ∧ Accepted Token m username password dn account ∧
        claims = tokenClaims Token m dn account := by
  have hoption : ∀ x : Except AuthExc Claims, x.toOption = some claims ↔ x = .ok claims := by
    intro x
    cases x <;> simp [Except.toOption]
  constructor
  · intro h
    obtain ⟨m, call⟩ := e
    cases call with
    | login username password =>
      obtain ⟨dn, account, haccepted, hclaims⟩ := loginClaims_eq_ok.mp ((hoption _).mp h)
      exact ⟨m, username, password, dn, account, rfl, haccepted, hclaims⟩
    | request right token => cases h
  · rintro ⟨m, username, password, dn, account, rfl, haccepted, hclaims⟩
    exact (hoption _).mpr (loginClaims_eq_ok.mpr ⟨dn, account, haccepted, hclaims⟩)

variable (Token) in
/-- The user is in the group that gives the right. -/
def HasRight (directory : Directory) (dn : String) : Right → Prop
  | .reader => dn ∈ adminGroupMembers Token directory ∨ dn ∈ readerGroupMembers Token directory
  | .admin => dn ∈ adminGroupMembers Token directory

/-- A login gives the right to a request at a later moment. -/
structure Grants (m₀ : Moment) (username password dn : String) (account : UserEntry) (m : Moment)
    (right : Right) (token : Token) (current : UserEntry) : Prop where
  accepted : Accepted Token m₀ username password dn account
  token : Signer.encode (tokenClaims Token m₀ dn account) = token
  unexpired : m.now < (tokenClaims Token m₀ dn account).expiry
  right : HasRight Token m₀.directory dn right
  named : account.uid ≠ ""
  current : Active Token m.directory m.now account.uid current

theorem allows_tokenClaims {m : Moment} {dn : String} {account : UserEntry} {sub : Subject}
    {exp : Int} (h : tokenClaims Token m dn account = ⟨some sub, exp⟩) (right : Right) :
    sub.username = some account.uid ∧
      (sub.Allows right ↔ HasRight Token m.directory dn right) := by
  unfold tokenClaims accessClaims at h
  obtain ⟨hsub, -⟩ := Claims.mk.inj h
  obtain rfl := Option.some.inj hsub
  refine ⟨rfl, ?_⟩
  cases right <;> simp [Subject.Allows, HasRight]

variable {run pre post : List (Moment × Call Token)} {m : Moment} {right : Right} {token : Token}

/-- Whoever is let in has logged in before. -/
theorem exists_grants (hunforged : Unforged issued presented run)
    (hrun : run = pre ++ (m, .request right token) :: post) {user : LdapUser}
    (h : authorize m.directory m.now right token = .ok user) :
    ∃ m₀ username password dn account current, (m₀, .login username password) ∈ pre ∧
      Grants m₀ username password dn account m right token current ∧
        ∃ sub, (tokenClaims Token m₀ dn account).sub = some sub ∧
          user = currentUser sub current := by
  obtain ⟨sub, exp, current, hread, hne, hactive, hallows, rfl⟩ := authorize_eq_ok.mp h
  obtain ⟨hnow, e₀, he₀, hissued, htoken⟩ := (hunforged.decode_iff hrun rfl).mp hread
  obtain ⟨m₀, username, password, dn, account, rfl, haccepted, hclaims⟩ :=
    issued_eq_some.mp hissued
  obtain ⟨hname, hright⟩ := allows_tokenClaims hclaims.symm right
  rw [hclaims] at hnow htoken
  rw [AuthRuntime.expiry_eq] at hnow
  rw [hname, Option.getD_some] at hne hactive
  refine ⟨m₀, username, password, dn, account, current, he₀, ?_, sub, ?_, rfl⟩
  · exact ⟨haccepted, htoken, hnow, hright.mp hallows, hne, hactive⟩
  · rw [← hclaims]

/-- Whoever has logged in is let in. -/
theorem authorize_of_grants {m₀ : Moment} {username password dn : String}
    {account current : UserEntry}
    (h : Grants m₀ username password dn account m right token current) {sub : Subject}
    (hsub : (tokenClaims Token m₀ dn account).sub = some sub) :
    authorize m.directory m.now right token = .ok (currentUser sub current) := by
  have hclaims : tokenClaims Token m₀ dn account =
      ⟨some sub, (tokenClaims Token m₀ dn account).exp⟩ := by
    rw [← hsub]
  obtain ⟨hname, hright⟩ := allows_tokenClaims hclaims right
  have hread : (Signer.decode m.now token : Option Claims) =
      some (tokenClaims Token m₀ dn account) := by
    rw [← h.token, Signer.decode_encode, AuthRuntime.expiry_eq, if_pos h.unexpired]
  rw [hclaims] at hread
  refine authorize_eq_ok.mpr ⟨sub, _, current, hread, ?_, ?_, hright.mpr h.right, rfl⟩
  · rw [hname, Option.getD_some]
    exact h.named
  · rw [hname, Option.getD_some]
    exact h.current

/-- A request is let in as a user if and only if one of the logins before it gives it the right, and
the account of the login is still the only one of its name and is active. -/
theorem authorize_iff (hunforged : Unforged issued presented run)
    (hrun : run = pre ++ (m, .request right token) :: post) (user : LdapUser) :
    authorize m.directory m.now right token = .ok user ↔
      ∃ m₀ username password dn account current, (m₀, .login username password) ∈ pre ∧
        Grants m₀ username password dn account m right token current ∧
          ∃ sub, (tokenClaims Token m₀ dn account).sub = some sub ∧
            user = currentUser sub current := by
  constructor
  · exact exists_grants hunforged hrun
  · rintro ⟨m₀, username, password, dn, account, current, -, hgrants, sub, hsub, rfl⟩
    exact authorize_of_grants hgrants hsub

/-- If no token of a run lives longer than some minutes, and from some time on no login gives a
right to accounts of a user, then so many minutes later the user does not get in any more. -/
theorem rights_end (hunforged : Unforged issued presented run)
    (hrun : run = pre ++ (m, .request right token) :: post) {since minutes : Int} {uid : String}
    (hshort : ∀ m₀ username password, (m₀, Call.login username password) ∈ pre →
      m₀.tokenTtl ≤ minutes)
    (hrevoked : ∀ m₀ username password dn account, (m₀, Call.login username password) ∈ pre →
      since ≤ m₀.now → Accepted Token m₀ username password dn account →
        AuthRuntime.uidMatches Token account.uid uid = true → ¬ HasRight Token m₀.directory dn right)
    (hlate : since + minutes * 60000000 ≤ m.now) (user : LdapUser) (hname : user.username = uid) :
    authorize m.directory m.now right token ≠ .ok user := by
  intro h
  obtain ⟨m₀, username, password, dn, account, current, hlogin, hgrants, sub, -, rfl⟩ :=
    exists_grants hunforged hrun h
  have hmatches : AuthRuntime.uidMatches Token account.uid uid = true := by
    have hfound : current ∈ m.directory.foundBy Token none account.uid := by
      rw [hgrants.current.found]
      exact List.mem_singleton_self _
    have hmem := List.mem_of_mem_filter hfound
    rw [← hname]
    exact (List.mem_filter.mp hmem).2
  have hbefore : m₀.now < since := by
    by_contra hnot
    exact hrevoked m₀ username password dn account hlogin (by omega) hgrants.accepted hmatches
      hgrants.right
  have hexpiry := expiry_tokenClaims_le Token m₀ dn account
  have hunexpired := hgrants.unexpired
  have hminutes := hshort m₀ username password hlogin
  omega

end Runs

/-! ## An administrator -/

section Example

theorem plainTokens_decode (now : Int) (claims : Claims) :
    (if now < (id claims).expiry then some (id claims) else none) =
      if now < claims.expiry then some claims else none := rfl

/-- Tokens that are their content, and rules that compare texts as they are. -/
@[reducible] def plainTokens : AuthRuntime Claims where
  expiry := Claims.expiry
  encode := id
  decode now token := if now < token.expiry then some token else none
  decode_encode := plainTokens_decode
  expiry_eq _ := rfl
  uidMatches a b := decide (a = b)
  cnMatches a b := decide (a = b)
  shadowExpired days now := decide (days * 86400000000 < now)

attribute [local instance] plainTokens

def anna : UserEntry where
  dn := "uid=anna"
  uid := "anna"
  displayName := some "Anna"
  sambaAcctFlags := some "[U          ]"
  krb5KdcFlags := some 126
  shadowExpire := none
  ucsschoolSchool := []
  ucsschoolRole := []

/-- Anna with the password `secret`, and the members of the group of administrators. -/
def annasDirectory (admins : List String) : Directory where
  users := [anna]
  groups := [⟨"ucsschool-kelvin-rest-api-admins", admins⟩]
  passwords dn password := decide (dn = "uid=anna" ∧ password = "secret")
  readable _ _ := true

def annasLogin : Moment := ⟨0, annasDirectory ["uid=anna"], 60⟩

theorem annasLogin_accepted : Accepted Claims annasLogin "anna" "secret" "uid=anna" anna where
  only := rfl
  named := by decide
  password := rfl
  found := rfl
  flags := by decide

def annasToken : Claims := tokenClaims Claims annasLogin "uid=anna" anna

def annasRun (later : Moment) : List (Moment × Call Claims) :=
  [(annasLogin, .login "anna" "secret"), (later, .request .admin annasToken)]

theorem annasRun_unforged (later : Moment) :
    Unforged issued presented (annasRun later) := by
  intro pre e post hrun now token hpresented claims _
  cases pre with
  | nil =>
    obtain ⟨rfl, -⟩ := List.cons.inj hrun
    cases hpresented
  | cons first pre =>
    obtain ⟨rfl, htail⟩ := List.cons.inj hrun
    cases pre with
    | nil =>
      obtain ⟨rfl, -⟩ := List.cons.inj htail
      cases hpresented
      exact ⟨_, List.mem_singleton_self _, annasToken,
        issued_eq_some.mpr ⟨_, _, _, _, _, rfl, annasLogin_accepted, rfl⟩, rfl⟩
    | cons second pre =>
      have hlength : 1 = pre.length + (post.length + 1) + 1 := by
        simpa using congrArg List.length htail
      omega

theorem annasRun_eq (later : Moment) : annasRun later =
    [(annasLogin, .login "anna" "secret")] ++ (later, .request .admin annasToken) :: [] := rfl

/-- A second after the login, with the account still there. -/
theorem authorize_anna : authorize (annasDirectory []) 1000000 .admin annasToken =
    .ok ⟨"anna", some "Anna", false, "uid=anna", true, false, [], []⟩ := by
  refine (authorize_iff (annasRun_unforged ⟨1000000, annasDirectory [], 60⟩)
    (annasRun_eq ⟨1000000, annasDirectory [], 60⟩) _).mpr
      ⟨annasLogin, "anna", "secret", "uid=anna", anna, anna, List.mem_singleton_self _, ?_, _, rfl,
        rfl⟩
  exact
    { accepted := annasLogin_accepted
      token := rfl
      unexpired := by decide
      right := List.mem_singleton_self "uid=anna"
      named := by decide
      current := ⟨rfl, by decide⟩ }

/-- An hour after Anna has been taken out of the group. -/
theorem anna_without_right : authorize (annasDirectory []) 3600000001 .admin annasToken ≠
    .ok ⟨"anna", some "Anna", false, "uid=anna", true, false, [], []⟩ := by
  have hlate : (1 : Int) + 60 * 60000000 ≤ 3600000001 := by decide
  refine rights_end (annasRun_unforged ⟨3600000001, annasDirectory [], 60⟩)
    (annasRun_eq ⟨3600000001, annasDirectory [], 60⟩) ?_ ?_ hlate _ rfl
  · intro m₀ username password hmem
    cases List.mem_singleton.mp hmem
    decide
  · intro m₀ username password dn account hmem hsince
    cases List.mem_singleton.mp hmem
    exact absurd hsince (by decide)

end Example

end TokenAuth

end Kelvin
