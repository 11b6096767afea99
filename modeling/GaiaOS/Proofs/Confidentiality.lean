/-
Who gets to see an investigation.

The routes check the requester against the owner, and that check is right: with a user
attached, only the owner and an admin get an answer with data in it, and for everybody else
an investigation of somebody else might as well not be there (`Confidential`).  But the
check is made only if there is a user, and the chain of providers lets several kinds of
request through without one: no credentials at all, the token of the metrics scraper, and an
API key it has just rejected.  For these every investigation is open, so the law holds of a
request exactly when it is none of them (`confidential_iff`).
-/
import GaiaOS.App.Investigations

namespace GaiaOS

namespace InvestigationsApi

open Auth

/-! ### Credentials -/

section Credentials

variable (env : AuthEnv) (request : Request)

/-- The stored keys a raw key matches. -/
def matchingKeys (rawKey : String) : List ApiKey :=
  env.apiKeys.filter fun key => key.keyHash = env.hashApiKey rawKey

/-- The owner may use an API key. -/
def Usable (user : User) : Prop := user.deletedAt = none ∧ user.isActive = true

/-- The raw key is a valid one of the user's. -/
def KeyOf (rawKey : String) (user : User) : Prop :=
  ∃ key, matchingKeys env rawKey = [key] ∧ key.isRevoked = false ∧
    env.users key.ownerId = some user ∧ Usable user

/-- The raw key is unknown, revoked, or of nobody who may use it. -/
def KeyRejected (rawKey : String) : Prop :=
  matchingKeys env rawKey = [] ∨
    ∃ key, matchingKeys env rawKey = [key] ∧
      (key.isRevoked = true ∨ ∀ user, env.users key.ownerId = some user → ¬ Usable user)

/-- The authorization header is a bearer token. -/
def Bears (token : String) : Prop :=
  ∃ header scheme, presentHeader request.authorization = some header ∧
    pySplit header = [scheme, token] ∧ env.rt.lower scheme = "bearer"

/-- The API key of the request, if it is looked at. -/
def presentedKey : Option String :=
  if env.sessionReady then presentHeader request.xApiKey else none

/-- The credentials are the user's. -/
def Authenticated (user : User) : Prop :=
  (∃ rawKey, presentedKey env request = some rawKey ∧ KeyOf env rawKey user) ∨
    presentedKey env request = none ∧
      ∃ token, Bears env request token ∧
        presentHeader env.prometheusMetricsToken ≠ some token ∧ bearerUser env token = .ok user

/-- No header, the token of the metrics scraper, or a rejected API key. -/
def CarriesNoUser : Prop :=
  (∃ rawKey, presentedKey env request = some rawKey ∧ KeyRejected env rawKey) ∨
    presentedKey env request = none ∧
      (presentHeader request.authorization = none ∨
        ∃ token, Bears env request token ∧
          presentHeader env.prometheusMetricsToken = some token)

end Credentials

/-! ### What the chain attaches -/

section Chain

variable {env : AuthEnv} {request : Request}

/-- A key is accepted with its owner or rejected with an error. -/
theorem acceptKey_settles (env : AuthEnv) (key : ApiKey) :
    ((acceptKey env {} key).user.isSome || (acceptKey env {} key).apiKeyError.isSome) = true := by
  unfold acceptKey rejectKey
  split
  · rfl
  · split
    · rfl
    · split
      · rfl
      · rfl

theorem acceptKey_user {key : ApiKey} (user : User) :
    (acceptKey env {} key).user = some user ↔
      key.isRevoked = false ∧ env.users key.ownerId = some user ∧ Usable user := by
  unfold acceptKey rejectKey Usable
  by_cases hrevoked : key.isRevoked = true
  · simp [hrevoked]
  · rw [if_neg hrevoked]
    cases howner : env.users key.ownerId with
    | none => simp
    | some owner =>
        by_cases hblocked : (owner.deletedAt.isSome || !owner.isActive) = true
        · simp only [hblocked, if_true]
          constructor
          · intro h
            cases h
          · rintro ⟨-, hsame, hdeleted, hactive⟩
            cases hsame
            simp [hdeleted, hactive] at hblocked
        · simp only [hblocked, Bool.false_eq_true, if_false]
          simp only [Bool.or_eq_true, Option.isSome_iff_ne_none, Bool.not_eq_true', not_or,
            not_not, Bool.not_eq_false] at hblocked
          constructor
          · rintro hsame
            cases hsame
            exact ⟨by simpa using hrevoked, rfl, hblocked⟩
          · rintro ⟨-, hsame, -⟩
            exact hsame

theorem acceptKey_no_user {key : ApiKey} :
    (acceptKey env {} key).user = none ↔
      key.isRevoked = true ∨ ∀ user, env.users key.ownerId = some user → ¬ Usable user := by
  constructor
  · intro hnone
    by_cases hrevoked : key.isRevoked = true
    · exact Or.inl hrevoked
    · refine Or.inr fun user howner husable => ?_
      have huser := (acceptKey_user user).mpr ⟨by simpa using hrevoked, howner, husable⟩
      rw [hnone] at huser
      cases huser
  · intro h
    cases huser : (acceptKey env {} key).user with
    | none => rfl
    | some user =>
        obtain ⟨hvalid, howner, husable⟩ := (acceptKey_user user).mp huser
        rcases h with hrevoked | hunusable
        · rw [hrevoked] at hvalid
          cases hvalid
        · exact absurd husable (hunusable user howner)

/-- With an API key the chain ends at the first provider. -/
theorem runChain_of_key {rawKey : String} (hkey : presentedKey env request = some rawKey) :
    (matchingKeys env rawKey = [] ∧ runChain env request authChain {} =
      .ok (rejectKey {} "invalid_api_key" "Invalid API key.")) ∨
    (∃ key, matchingKeys env rawKey = [key] ∧
      runChain env request authChain {} = .ok (acceptKey env {} key)) ∨
    (1 < (matchingKeys env rawKey).length ∧ ∃ e, runChain env request authChain {} = .error e) := by
  unfold presentedKey at hkey
  split at hkey
  · rename_i hready
    have hprovider : ∀ found, scalarOneOrNone (matchingKeys env rawKey) = found →
        scalarOneOrNone (env.apiKeys.filter fun key => key.keyHash = env.hashApiKey rawKey) =
          found := fun _ h => h
    cases hmatch : matchingKeys env rawKey with
    | nil =>
        refine Or.inl ⟨rfl, ?_⟩
        have hfound := hprovider (.ok none) (by rw [hmatch]; rfl)
        simp only [authChain, runChain, apiKeyAuthenticate, hkey, hready, if_true, hfound]
        rfl
    | cons key rest =>
        cases rest with
        | nil =>
            refine Or.inr (Or.inl ⟨key, rfl, ?_⟩)
            have hfound := hprovider (.ok (some key)) (by rw [hmatch]; rfl)
            simp only [authChain, runChain, apiKeyAuthenticate, hkey, hready, if_true, hfound,
              acceptKey_settles]
        | cons other rest =>
            refine Or.inr (Or.inr ⟨by simp, ?_⟩)
            have hfound := hprovider (.error _) (by rw [hmatch]; rfl)
            simp only [authChain, runChain, apiKeyAuthenticate, hkey, hready, if_true, hfound]
            exact ⟨_, rfl⟩
  · cases hkey

/-- Without one it is the bearer token that decides. -/
theorem runChain_of_no_key (hkey : presentedKey env request = none) :
    runChain env request authChain {} = jwtAuthenticate env request {} := by
  have hprovider : apiKeyAuthenticate env request {} = .ok {} := by
    unfold presentedKey at hkey
    unfold apiKeyAuthenticate
    split
    · rfl
    · rename_i rawKey hpresent
      split at hkey
      · rw [hpresent] at hkey
        cases hkey
      · rename_i hready
        rw [if_neg hready]
  simp only [authChain, runChain, hprovider]
  cases jwtAuthenticate env request {} with
  | error e => rfl
  | ok state => simp

theorem jwtAuthenticate_of_no_header (hheader : presentHeader request.authorization = none) :
    jwtAuthenticate env request {} = .ok {} := by
  unfold jwtAuthenticate
  rw [hheader]

theorem jwtAuthenticate_of_scrape {token : String} (htoken : Bears env request token)
    (hscrape : presentHeader env.prometheusMetricsToken = some token) :
    jwtAuthenticate env request {} = .ok {} := by
  obtain ⟨header, scheme, hheader, hsplit, hbearer⟩ := htoken
  simp only [jwtAuthenticate, hheader, hsplit, hbearer, hscrape, ne_eq, not_true, if_false, if_true]

theorem jwtAuthenticate_of_token {token : String} (htoken : Bears env request token)
    (hscrape : presentHeader env.prometheusMetricsToken ≠ some token) :
    jwtAuthenticate env request {} =
      (bearerUser env token).map fun user => { user := some user } := by
  obtain ⟨header, scheme, hheader, hsplit, hbearer⟩ := htoken
  simp only [jwtAuthenticate, hheader, hsplit, hbearer, hscrape, ne_eq, not_true, if_false]
  cases bearerUser env token with
  | error e => rfl
  | ok user => rfl

/-- What the token provider lets through: nothing attached without a header or with the
scraper's token, and the user of a valid token.  Every other header is an error. -/
theorem jwtAuthenticate_ok {state : RequestState}
    (hstate : jwtAuthenticate env request {} = .ok state) :
    (state.user = none ∧ (presentHeader request.authorization = none ∨
      ∃ token, Bears env request token ∧
        presentHeader env.prometheusMetricsToken = some token)) ∨
    ∃ token user, state.user = some user ∧ Bears env request token ∧
      presentHeader env.prometheusMetricsToken ≠ some token ∧ bearerUser env token = .ok user := by
  cases hheader : presentHeader request.authorization with
  | none =>
      rw [jwtAuthenticate_of_no_header hheader] at hstate
      cases hstate
      exact Or.inl ⟨rfl, Or.inl rfl⟩
  | some header =>
      by_cases htoken : ∃ token, Bears env request token
      · obtain ⟨token, htoken⟩ := htoken
        by_cases hscrape : presentHeader env.prometheusMetricsToken = some token
        · rw [jwtAuthenticate_of_scrape htoken hscrape] at hstate
          cases hstate
          exact Or.inl ⟨rfl, Or.inr ⟨token, htoken, hscrape⟩⟩
        · rw [jwtAuthenticate_of_token htoken hscrape] at hstate
          cases hbearer : bearerUser env token with
          | error e =>
              rw [hbearer] at hstate
              cases hstate
          | ok user =>
              rw [hbearer] at hstate
              cases hstate
              exact Or.inr ⟨token, user, rfl, htoken, hscrape, hbearer⟩
      · -- neither the shape nor the scheme of the header can be right
        unfold jwtAuthenticate at hstate
        rw [hheader] at hstate
        dsimp only at hstate
        split at hstate
        · rename_i scheme token hsplit
          have hscheme : env.rt.lower scheme ≠ "bearer" := fun hbearer =>
            htoken ⟨token, header, scheme, hheader, hsplit, hbearer⟩
          rw [if_pos hscheme] at hstate
          cases hstate
        · cases hstate

theorem jwtAuthenticate_user (user : User) :
    (∃ state, jwtAuthenticate env request {} = .ok state ∧ state.user = some user) ↔
      ∃ token, Bears env request token ∧
        presentHeader env.prometheusMetricsToken ≠ some token ∧ bearerUser env token = .ok user := by
  constructor
  · rintro ⟨state, hstate, huser⟩
    rcases jwtAuthenticate_ok hstate with ⟨hnone, -⟩ | ⟨token, found, hfound, h⟩
    · rw [hnone] at huser
      cases huser
    · rw [hfound] at huser
      cases huser
      exact ⟨token, h⟩
  · rintro ⟨token, htoken, hscrape, hbearer⟩
    refine ⟨{ user := some user }, ?_, rfl⟩
    rw [jwtAuthenticate_of_token htoken hscrape, hbearer]
    rfl

theorem jwtAuthenticate_no_user :
    (∃ state, jwtAuthenticate env request {} = .ok state ∧ state.user = none) ↔
      presentHeader request.authorization = none ∨
        ∃ token, Bears env request token ∧
          presentHeader env.prometheusMetricsToken = some token := by
  constructor
  · rintro ⟨state, hstate, huser⟩
    rcases jwtAuthenticate_ok hstate with ⟨-, h⟩ | ⟨token, found, hfound, -⟩
    · exact h
    · rw [hfound] at huser
      cases huser
  · rintro (hheader | ⟨token, htoken, hscrape⟩)
    · exact ⟨{}, jwtAuthenticate_of_no_header hheader, rfl⟩
    · exact ⟨{}, jwtAuthenticate_of_scrape htoken hscrape, rfl⟩

/-- The chain attaches a user exactly to the credentials that are the user's. -/
theorem runChain_user (user : User) :
    (∃ state, runChain env request authChain {} = .ok state ∧ state.user = some user) ↔
      Authenticated env request user := by
  unfold Authenticated
  cases hkey : presentedKey env request with
  | none =>
      rw [runChain_of_no_key hkey, jwtAuthenticate_user]
      simp
  | some rawKey =>
      simp only [Option.some.injEq, reduceCtorEq, false_and, or_false, exists_eq_left']
      unfold KeyOf
      rcases runChain_of_key hkey with ⟨hmatch, hrun⟩ | ⟨key, hmatch, hrun⟩ | ⟨hmatch, e, hrun⟩
      · rw [hrun, hmatch]
        simp [rejectKey]
      · rw [hrun, hmatch]
        simp only [Except.ok.injEq, exists_eq_left', List.cons.injEq, and_true]
        exact acceptKey_user user
      · rw [hrun]
        constructor
        · rintro ⟨state, hstate, -⟩
          cases hstate
        · rintro ⟨key, hone, -⟩
          rw [hone] at hmatch
          exact absurd hmatch (by simp)

/-- It lets a request through without a user exactly if there is none to attach. -/
theorem runChain_no_user :
    (∃ state, runChain env request authChain {} = .ok state ∧ state.user = none) ↔
      CarriesNoUser env request := by
  unfold CarriesNoUser
  cases hkey : presentedKey env request with
  | none =>
      rw [runChain_of_no_key hkey, jwtAuthenticate_no_user]
      simp
  | some rawKey =>
      simp only [Option.some.injEq, reduceCtorEq, false_and, or_false, exists_eq_left']
      unfold KeyRejected
      rcases runChain_of_key hkey with ⟨hmatch, hrun⟩ | ⟨key, hmatch, hrun⟩ | ⟨hmatch, e, hrun⟩
      · rw [hrun, hmatch]
        simp [rejectKey]
      · rw [hrun, hmatch]
        simp only [Except.ok.injEq, exists_eq_left', reduceCtorEq, List.cons.injEq, and_true,
          false_or]
        exact acceptKey_no_user
      · rw [hrun]
        constructor
        · rintro ⟨state, hstate, -⟩
          cases hstate
        · rintro (hnone | ⟨key, hone, -⟩)
          · rw [hnone] at hmatch
            exact absurd hmatch (by simp)
          · rw [hone] at hmatch
            exact absurd hmatch (by simp)

end Chain

/-! ### What an answer gives away -/

/-- An answer with an investigation's data in it. -/
def Response.discloses {Trace : Type} : Response Trace → Bool
  | .status _ => true
  | .trace _ => true
  | .stream _ => true
  | _ => false

/-- An answer up to not-found versus forbidden. -/
def Response.observed {Trace : Type} : Response Trace → Option (Response Trace)
  | .notFound _ => none
  | .refused e => if e.statusCode = 403 then none else some (.refused e)
  | response => some response

/-- The request is authenticated as the user, or as an admin. -/
def AuthenticatedAs (env : AuthEnv) (request : Request) (owner : Uuid) : Prop :=
  ∃ user, Authenticated env request user ∧ (user.id = owner ∨ user.role = Role.value .admin)

/-- There is no investigation, or it is the owner's. -/
def NoneButOf (owner : Uuid) (row : Option Investigation) : Prop :=
  ∀ investigation, row = some investigation → investigation.userId = some owner

/-- Two databases that differ only in the owner's investigations. -/
structure AgreeOutside (rt : Runtime) (owner : Uuid) (world world' : World) : Prop where
  redisUp : world.redisUp = world'.redisUp
  rows : ∀ id,
    (world.investigations id = world'.investigations id ∧
      (subscribe rt id world.log).1 = (subscribe rt id world'.log).1) ∨
    (NoneButOf owner (world.investigations id) ∧ NoneButOf owner (world'.investigations id))

/-- A request gets an investigation's data only for its owner or an admin, and learns nothing
from the investigations of anybody it is not authenticated as. -/
structure Confidential (env : AuthEnv) (request : Request) : Prop where
  disclosed : ∀ (Trace : Type) (limiter : Limiter) (transform : Investigation → Trace)
    (world : World) (endpoint : Endpoint) (id : Uuid) (investigation : Investigation) (owner : Uuid),
    world.investigations id = some investigation → investigation.userId = some owner →
    (respond env limiter transform world request endpoint id).discloses = true →
    AuthenticatedAs env request owner
  noninterference : ∀ (Trace : Type) (limiter : Limiter) (transform : Investigation → Trace)
    (world world' : World) (endpoint : Endpoint) (id owner : Uuid),
    ¬ AuthenticatedAs env request owner → AgreeOutside env.rt owner world world' →
    (respond env limiter transform world request endpoint id).observed =
      (respond env limiter transform world' request endpoint id).observed

section Routes

variable {Trace : Type} {rt : Runtime} {transform : Investigation → Trace} {world world' : World}
  {id : Uuid} {state : RequestState} {user : User}

/-- Every route answers through `authorized`, with something read off the row and what else
belongs to the investigation. -/
theorem route_congr (endpoint : Endpoint) (hredis : world.redisUp = world'.redisUp)
    (hrow : world.investigations id = world'.investigations id)
    (hevents : (subscribe rt id world.log).1 = (subscribe rt id world'.log).1) :
    route rt transform world id state endpoint = route rt transform world' id state endpoint := by
  cases endpoint with
  | get => simp only [route, getInvestigation, authorized, hrow]
  | trace => simp only [route, getInvestigationTrace, authorized, hrow]
  | stream =>
      simp only [route, streamInvestigationEvents, authorized, hrow, hredis, hevents]

theorem checkOwnerOrRole_stranger {owner : Uuid} (hid : user.id ≠ owner)
    (hrole : user.role ≠ Role.value .admin) :
    checkOwnerOrRole (some owner) user [.admin] =
      .error ⟨403, "You do not have permission to access this resource.", none, none⟩ := by
  unfold checkOwnerOrRole
  have hnotAdmin : ¬ (user.role = Role.value .admin ∨
      user.role ∈ [Role.admin].map Role.value) := by
    simpa using hrole
  rw [if_neg hnotAdmin, if_neg]
  intro hsame
  cases hsame
  exact hid rfl

/-- A stranger gets a 403 or a 404 from every route. -/
theorem route_stranger {owner : Uuid} (endpoint : Endpoint) (huser : state.user = some user)
    (hid : user.id ≠ owner) (hrole : user.role ≠ Role.value .admin)
    (hrow : NoneButOf owner (world.investigations id)) :
    (route rt transform world id state endpoint).observed = none ∧
      (route rt transform world id state endpoint).discloses = false := by
  have hauthorized : ∀ answer : Investigation → Response Trace,
      (authorized world id state answer).observed = none ∧
        (authorized world id state answer).discloses = false := by
    intro answer
    unfold authorized
    cases hfound : world.investigations id with
    | none => exact ⟨rfl, rfl⟩
    | some investigation =>
        have howner := hrow investigation hfound
        simp only [huser, howner, checkOwnerOrRole_stranger hid hrole]
        exact ⟨rfl, rfl⟩
  cases endpoint with
  | get => exact hauthorized _
  | trace => exact hauthorized _
  | stream => exact hauthorized _

/-- Without a user there is nobody to check. -/
theorem route_anonymous {investigation : Investigation} (huser : state.user = none)
    (hrow : world.investigations id = some investigation) :
    (route rt transform world id state .get).discloses = true := by
  simp only [route, getInvestigation, authorized, hrow, huser]
  rfl

end Routes

section Dispatch

variable {env : AuthEnv} {request : Request}

/-- A request the chain stops is answered with an error, whatever the route. -/
theorem dispatch_error {Trace : Type} (limiter : Limiter) {failure : Failure}
    (hchain : runChain env request authChain {} = .error failure) :
    ∃ answer : Response Trace, answer.discloses = false ∧
      ∀ handler, dispatch env limiter request handler = answer := by
  cases failure with
  | http e =>
      refine ⟨.refused e, rfl, fun handler => ?_⟩
      simp only [dispatch, hchain]
  | crash e =>
      refine ⟨.failed e, rfl, fun handler => ?_⟩
      simp only [dispatch, hchain]

/-- One the chain lets through is answered by the limiter or by the route. -/
theorem dispatch_ok {Trace : Type} {limiter : Limiter} {state : RequestState}
    (hchain : runChain env request authChain {} = .ok state) :
    (∃ e : HttpException, ∀ handler : RequestState → Response Trace,
      dispatch env limiter request handler = .refused e) ∨
    ∀ handler : RequestState → Response Trace,
      dispatch env limiter request handler = handler state := by
  cases hlimit : limiter request state with
  | error e =>
      refine Or.inl ⟨e, fun handler => ?_⟩
      simp only [dispatch, hchain, hlimit]
  | ok admitted =>
      refine Or.inr fun handler => ?_
      simp only [dispatch, hchain, hlimit]

/-- Past the chain with somebody attached, it is somebody the request is authenticated as. -/
theorem attached_of_ok {state : RequestState} (hcarries : ¬ CarriesNoUser env request)
    (hchain : runChain env request authChain {} = .ok state) :
    ∃ user, state.user = some user ∧ Authenticated env request user := by
  cases huser : state.user with
  | none => exact absurd (runChain_no_user.mp ⟨state, hchain, huser⟩) hcarries
  | some user => exact ⟨user, rfl, (runChain_user user).mp ⟨state, hchain, huser⟩⟩

theorem respond_discloses {Trace : Type} {limiter : Limiter} {transform : Investigation → Trace}
    {world : World} {endpoint : Endpoint} {id owner : Uuid} {investigation : Investigation}
    (hcarries : ¬ CarriesNoUser env request)
    (hrow : world.investigations id = some investigation)
    (howner : investigation.userId = some owner)
    (hdisclosed : (respond env limiter transform world request endpoint id).discloses = true) :
    AuthenticatedAs env request owner := by
  unfold respond at hdisclosed
  cases hchain : runChain env request authChain {} with
  | error failure =>
      obtain ⟨answer, hanswer, hall⟩ := dispatch_error limiter hchain
      rw [hall, hanswer] at hdisclosed
      cases hdisclosed
  | ok state =>
      obtain ⟨user, huser, hauthenticated⟩ := attached_of_ok hcarries hchain
      refine ⟨user, hauthenticated, ?_⟩
      by_contra hstranger
      rw [not_or] at hstranger
      have hbelongs : NoneButOf owner (world.investigations id) := by
        intro found hfound
        rw [hrow] at hfound
        cases hfound
        exact howner
      rcases dispatch_ok hchain with ⟨e, hall⟩ | hall
      · rw [hall] at hdisclosed
        cases hdisclosed
      · rw [hall, (route_stranger endpoint huser hstranger.1 hstranger.2 hbelongs).2] at hdisclosed
        cases hdisclosed

theorem respond_observed {Trace : Type} {limiter : Limiter} {transform : Investigation → Trace}
    {world world' : World} {endpoint : Endpoint} {id owner : Uuid}
    (hcarries : ¬ CarriesNoUser env request) (hstranger : ¬ AuthenticatedAs env request owner)
    (hagree : AgreeOutside env.rt owner world world') :
    (respond env limiter transform world request endpoint id).observed =
      (respond env limiter transform world' request endpoint id).observed := by
  unfold respond
  cases hchain : runChain env request authChain {} with
  | error failure =>
      obtain ⟨answer, -, hall⟩ := dispatch_error limiter hchain
      rw [hall, hall]
  | ok state =>
      rcases dispatch_ok hchain with ⟨e, hall⟩ | hall
      · rw [hall, hall]
      · rw [hall, hall]
        rcases hagree.rows id with ⟨hrow, hevents⟩ | ⟨hrow, hrow'⟩
        · rw [route_congr endpoint hagree.redisUp hrow hevents]
        · obtain ⟨user, huser, hauthenticated⟩ := attached_of_ok hcarries hchain
          have hid : user.id ≠ owner := fun h => hstranger ⟨user, hauthenticated, Or.inl h⟩
          have hrole : user.role ≠ Role.value .admin := fun h =>
            hstranger ⟨user, hauthenticated, Or.inr h⟩
          rw [(route_stranger endpoint huser hid hrole hrow).1,
            (route_stranger endpoint huser hid hrole hrow').1]

theorem not_authenticated_of_carriesNoUser (hcarries : CarriesNoUser env request) (user : User) :
    ¬ Authenticated env request user := by
  intro hauthenticated
  obtain ⟨state, hchain, huser⟩ := runChain_no_user.mpr hcarries
  obtain ⟨state', hchain', huser'⟩ := (runChain_user user).mpr hauthenticated
  rw [hchain] at hchain'
  cases hchain'
  rw [huser] at huser'
  cases huser'

/-- Let through without a user, a request that the limiter admits reads any investigation. -/
theorem respond_anonymous {Trace : Type} {limiter : Limiter} {transform : Investigation → Trace}
    {world : World} {id : Uuid} {investigation : Investigation}
    (hcarries : CarriesNoUser env request) (hlimit : ∀ state, limiter request state = .ok ())
    (hrow : world.investigations id = some investigation) :
    (respond env limiter transform world request .get id).discloses = true := by
  obtain ⟨state, hchain, huser⟩ := runChain_no_user.mpr hcarries
  simp only [respond, dispatch, hchain, hlimit]
  exact route_anonymous huser hrow

/-- An investigation somebody owns. -/
def ownedInvestigation : Investigation where
  id := ⟨"5b0c2c1e-7d0e-4f7e-9a55-3f0a64d1c7e2", rfl⟩
  userId := some ⟨"0f8e4a52-1c0b-4d35-8e7e-6a2f5d9b3c11", rfl⟩
  queryText := "How stable is the slope above the village?"
  status := "complete"
  answer := some "The slope is moving."
  createdAt := 0

def ownedWorld : World where
  investigations id := if id = ownedInvestigation.id then some ownedInvestigation else none

theorem not_confidential (hcarries : CarriesNoUser env request) : ¬ Confidential env request := by
  intro hconfidential
  have hrow : ownedWorld.investigations ownedInvestigation.id = some ownedInvestigation := by
    simp [ownedWorld]
  obtain ⟨user, hauthenticated, -⟩ := hconfidential.disclosed Unit (fun _ _ => .ok ())
    (fun _ => ()) ownedWorld .get ownedInvestigation.id ownedInvestigation _ hrow rfl
    (respond_anonymous hcarries (fun _ => rfl) hrow)
  exact not_authenticated_of_carriesNoUser hcarries user hauthenticated

/-- **An investigation is shown to its owner and to admins, and gives nothing away to anybody
else, exactly if the request is not one the providers let through without a user.** -/
theorem confidential_iff (env : AuthEnv) (request : Request) :
    Confidential env request ↔ ¬ CarriesNoUser env request := by
  constructor
  · intro hconfidential hcarries
    exact not_confidential hcarries hconfidential
  · intro hcarries
    exact
      { disclosed := fun _ _ _ _ _ _ _ _ hrow howner hdisclosed =>
          respond_discloses hcarries hrow howner hdisclosed
        noninterference := fun _ _ _ _ _ _ _ _ hstranger hagree =>
          respond_observed hcarries hstranger hagree }

end Dispatch

/-- No token is valid, and nobody has an API key. -/
def lockedEnv : AuthEnv where
  rt := Runtime.reference
  decodeAccessToken _ := .error .invalid
  hashApiKey key := key
  users _ := none

/-- A request without credentials. -/
def bareRequest : Request where
  method := "GET"
  path := "/api/v1/investigations/5b0c2c1e-7d0e-4f7e-9a55-3f0a64d1c7e2"
  authorization := none
  xApiKey := none
  xForwardedFor := none
  clientHost := none

/-- It is answered with what the owner was told. -/
theorem bare_request_reads_answer :
    (∃ body : InvestigationStatusResponse,
      respond lockedEnv (fun _ _ => .ok ()) (fun _ => ()) ownedWorld bareRequest .get
        ownedInvestigation.id = .status body ∧ body.answer = some "The slope is moving.") ∧
    ¬ Confidential lockedEnv bareRequest := by
  refine ⟨⟨_, rfl, rfl⟩, ?_⟩
  have hcarries : CarriesNoUser lockedEnv bareRequest := Or.inr ⟨rfl, Or.inl rfl⟩
  exact not_confidential hcarries

end InvestigationsApi

end GaiaOS
