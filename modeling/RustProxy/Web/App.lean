import RustProxy.Web.Router

/-!
# The web application and its authentication gate

`build_app` of `crates/web/src/lib.rs` with the middleware of `crates/web/src/auth.rs` and the routes
of `crates/web/src/api.rs`.

* jsonwebtoken's `decode` is outside the repository; it is the parameter `decode` here, with its
  result for a token and a secret at the time of the request.
* `authMiddleware_gate` shows the gate the middleware is meant to be, for a request whose path it sees
  with the prefix `/api`.
* The middleware is a layer of the inner router, so it sees every path with `/api` stripped and takes
  it for one that needs no authentication (`callApp_ne_unauthorized`).  `gateHolds_iff` is what is
  left of the gate.
-/

namespace RustProxy.Web

/-- Source: `auth.rs`, `JwtClaims`. -/
structure JwtClaims where
  sub : String
  exp : ℕ
  iat : ℕ
  deriving DecidableEq, Repr

/-- The route handlers. -/
inductive Handler where
  | login
  | listProxies
  | createProxy
  | getProxy (name : Option String)
  | updateProxy (name : Option String)
  | deleteProxy (name : Option String)
  | listClients
  | serverStatus
  | wsHandler
  | healthCheck
  deriving DecidableEq, Repr

/-- What becomes of a request: a handler is called, or a status is sent without calling one. -/
inductive Outcome where
  | handled (handler : Handler)
  | status (code : ℕ)
  deriving DecidableEq, Repr

/-- Source: `StatusCode::UNAUTHORIZED`. -/
def unauthorized : Outcome := .status 401

/-! ## Authentication -/

/-- Source: `HeaderValue::to_str`, which accepts visible ASCII and tabs. -/
def toStr (value : List UInt8) : Option String :=
  if value.all fun b => (32 ≤ b && b < 127) || b = 9 then
    some (String.ofList (value.map fun b => Char.ofNat b.toNat))
  else none

/-- The scheme an `Authorization` header has to start with. -/
def bearer : String := "Bearer "

section

variable (decode : String → String → Option JwtClaims) (jwtSecret : String)

/-- Source: `auth.rs`, `validate_jwt`. -/
def validateJwt (token secret : String) : Except String JwtClaims :=
  match decode token secret with
  | some claims => .ok claims
  | none => .error "Token 无效或已过期"

/-- The path needs no authentication. -/
def isOpen (path : String) : Bool :=
  path = "/health" || path = "/api/auth/login" || startsWith path "/api/ws" ||
    !startsWith path "/api/"

/-- Source: `auth.rs`, `auth_middleware`. -/
def authMiddleware (next : Request → Outcome) (req : Request) : Outcome :=
  if isOpen req.path then next req
  else
    match req.authorization.bind toStr with
    | some header =>
        if startsWith header bearer then
          match validateJwt decode (String.ofList (header.toList.drop 7)) jwtSecret with
          | .ok _ => next req
          | .error _ => unauthorized
        else unauthorized
    | none => unauthorized

/-- The header is `Bearer` and a token that `validate_jwt` accepts. -/
def Authorized (req : Request) : Prop :=
  ∃ token claims, req.authorization.bind toStr = some (bearer ++ token) ∧
    validateJwt decode token jwtSecret = .ok claims

end

/-! ## Routes -/

/-- The handler of a method router, `get(..).post(..)` and so on; `GET` handlers answer `HEAD` too,
and other methods get 405. -/
def methodRouter (handlers : List (Method × (Request → Handler))) (req : Request) : Outcome :=
  let method := if req.method = .head then .get else req.method
  match handlers.find? fun entry => entry.1 = method with
  | some entry => .handled (entry.2 req)
  | none => .status 405

/-- Source: `api.rs`, `proxy_routes`. -/
def proxyRoutes : Router Outcome where
  routes :=
    [{ pattern := [.lit "/auth/login"]
       service := methodRouter [(.post, fun _ => .login)] },
     { pattern := [.lit "/proxies"]
       service := methodRouter [(.get, fun _ => .listProxies), (.post, fun _ => .createProxy)] },
     { pattern := [.lit "/proxies/", .param "name"]
       service := methodRouter [(.get, fun req => .getProxy req.params.head?),
         (.put, fun req => .updateProxy req.params.head?),
         (.delete, fun req => .deleteProxy req.params.head?)] },
     { pattern := [.lit "/clients"], service := methodRouter [(.get, fun _ => .listClients)] },
     { pattern := [.lit "/status"], service := methodRouter [(.get, fun _ => .serverStatus)] }]
  fallback := fun _ => .status 404

/-- Source: `lib.rs`, `static_handler`, for the embedded files `assets`. -/
def staticHandler (assets : String → Bool) (req : Request) : Outcome :=
  if startsWith req.path "/api/" then .status 404
  else if assets (String.ofList (req.path.toList.dropWhile (· = '/'))) then .status 200
  else if assets "index.html" then .status 200
  else .status 404

/-- tower-http's `CorsLayer`: a preflight request is answered, the others pass. -/
def corsLayer (next : Request → Outcome) (req : Request) : Outcome :=
  if req.method = .options then .status 200 else next req

/-- What the application is built from. -/
structure AppConfig where
  decode : String → String → Option JwtClaims
  jwtSecret : String
  corsOrigins : List String
  assets : String → Bool

/-- The routes under `/api`, behind the middleware. -/
def apiRoutes (app : AppConfig) : Router Outcome :=
  (proxyRoutes.route [.lit "/ws"] (methodRouter [(.get, fun _ => .wsHandler)])).layer
    (authMiddleware app.decode app.jwtSecret)

/-- `router` of `build_app`. -/
def router (app : AppConfig) : Router Outcome :=
  let new : Router Outcome := { routes := [], fallback := staticHandler app.assets }
  (new.nest "/api" (apiRoutes app)).route [.lit "/health"]
    (methodRouter [(.get, fun _ => .healthCheck)])

/-- Source: `lib.rs`, `build_app`. -/
def buildApp (app : AppConfig) : Request → Outcome :=
  if app.corsOrigins ≠ [] then corsLayer (router app).call else (router app).call

/-! ## The gate as the middleware makes it -/

variable {app : AppConfig} {req : Request}

/-- A text starts with its prefix. -/
lemma startsWith_iff (s pre : String) : startsWith s pre = true ↔ ∃ rest, s = pre ++ rest := by
  rw [startsWith, List.isPrefixOf_iff_prefix]
  constructor
  · rintro ⟨rest, hrest⟩
    refine ⟨String.ofList rest, String.toList_inj.mp ?_⟩
    rw [String.toList_append, String.toList_ofList, hrest]
  · rintro ⟨rest, rfl⟩
    exact ⟨rest.toList, by rw [String.toList_append]⟩

/-- Behind `Bearer ` stands the token. -/
lemma drop_bearer (token : String) : String.ofList ((bearer ++ token).toList.drop 7) = token := by
  have hlen : bearer.toList.length = 7 := rfl
  rw [String.toList_append, ← hlen, List.drop_left, String.ofList_toList]

/-- On a path that needs authentication the middleware lets exactly the authorized requests pass. -/
theorem authMiddleware_gate (next : Request → Outcome) (hpath : isOpen req.path = false) :
    (Authorized app.decode app.jwtSecret req →
      authMiddleware app.decode app.jwtSecret next req = next req) ∧
    (¬ Authorized app.decode app.jwtSecret req →
      authMiddleware app.decode app.jwtSecret next req = unauthorized) := by
  unfold authMiddleware
  rw [if_neg (by simp [hpath])]
  constructor
  · rintro ⟨token, claims, hheader, hvalid⟩
    have hbearer : startsWith (bearer ++ token) bearer = true :=
      (startsWith_iff _ _).mpr ⟨token, rfl⟩
    simp only [hheader, hbearer, drop_bearer, hvalid, if_true]
  · intro hnot
    split
    · case h_1 header hheader =>
      split
      · case isTrue hbearer =>
        obtain ⟨token, rfl⟩ := (startsWith_iff _ _).mp hbearer
        rw [drop_bearer]
        split
        · case h_1 claims hvalid => exact absurd ⟨token, claims, hheader, hvalid⟩ hnot
        · rfl
      · rfl
    · rfl

/-! ## The gate as the application has it -/

/-- An open path is let through. -/
lemma authMiddleware_of_open (next : Request → Outcome) (req : Request)
    (hopen : isOpen req.path = true) :
    authMiddleware app.decode app.jwtSecret next req = next req := if_pos hopen

/-- A method that is not there is not unauthorised. -/
lemma methodRouter_ne_unauthorized (handlers : List (Method × (Request → Handler))) :
    methodRouter handlers req ≠ unauthorized := by
  simp only [methodRouter, unauthorized]
  generalize List.find? _ handlers = entry
  cases entry <;> simp

/-- The middleware does not stop a request for a nested route whose own pattern does not begin with
the prefix once more. -/
lemma nested_ne_unauthorized {text : String} {rest : Pattern} {params : List String}
    (handlers : List (Method × (Request → Handler)))
    (hmatch : Pattern.capture (.lit "/api" :: .lit text :: rest) req.path.toList = some params)
    (htext : ∀ tail, "/api/".toList.isPrefixOf (text.toList ++ tail) = false) :
    authMiddleware app.decode app.jwtSecret (methodRouter handlers)
      { req with params, path := Router.stripPrefix "/api" req.path } ≠ unauthorized := by
  obtain ⟨tail, htail, hrest⟩ := Router.eq_append_of_capture hmatch
  obtain ⟨tail', rfl, -⟩ := Router.eq_append_of_capture hrest
  let req' : Request := { req with params, path := Router.stripPrefix "/api" req.path }
  have hopen : isOpen req'.path = true := by
    have hstart : startsWith (Router.stripPrefix "/api" req.path) "/api/" = false := by
      rw [Router.stripPrefix_append htail]
      simpa only [startsWith, String.toList_ofList] using htext tail'
    simp only [req', isOpen, hstart, Bool.not_false, Bool.or_true]
  rw [authMiddleware_of_open (methodRouter handlers) req' hopen]
  exact methodRouter_ne_unauthorized handlers

/-- No request under `/api/` is answered with 401. -/
theorem buildApp_ne_unauthorized (hpath : startsWith req.path "/api/" = true) :
    buildApp app req ≠ unauthorized := by
  have hcall : ∀ r : Router Outcome, r.fallback = staticHandler app.assets →
      (∀ route ∈ r.routes, ∀ params, route.pattern.capture req.path.toList = some params →
        route.service { req with params } ≠ unauthorized) → r.call req ≠ unauthorized := by
    intro r hfallback hroutes
    refine Router.callRoutes_ind (P := (· ≠ unauthorized)) ?_ hroutes
    rw [hfallback, staticHandler, if_pos hpath]
    simp [unauthorized]
  have hrouter : ∀ route ∈ (router app).routes, ∀ params,
      route.pattern.capture req.path.toList = some params →
        route.service { req with params } ≠ unauthorized := by
    intro route hroute params hmatch
    simp only [router, apiRoutes, proxyRoutes, Router.route, Router.nest, Router.layer,
      Router.nestRoute, List.map_cons, List.map_nil, List.nil_append, List.cons_append,
      List.mem_cons, List.not_mem_nil, or_false] at hroute
    rcases hroute with rfl | rfl | rfl | rfl | rfl | rfl | rfl <;> dsimp only at hmatch ⊢
    · exact nested_ne_unauthorized _ hmatch fun _ => rfl
    · exact nested_ne_unauthorized _ hmatch fun _ => rfl
    · exact nested_ne_unauthorized _ hmatch fun _ => rfl
    · exact nested_ne_unauthorized _ hmatch fun _ => rfl
    · exact nested_ne_unauthorized _ hmatch fun _ => rfl
    · exact nested_ne_unauthorized _ hmatch fun _ => rfl
    · exact methodRouter_ne_unauthorized _
  unfold buildApp
  split
  · unfold corsLayer
    split
    · simp [unauthorized]
    · exact hcall (router app) rfl hrouter
  · exact hcall (router app) rfl hrouter

/-- The paths the gate is about, as the server receives them. -/
structure Guarded (path : String) : Prop where
  api : startsWith path "/api/" = true
  not_login : path ≠ "/api/auth/login"
  not_ws : startsWith path "/api/ws" = false

/-- The gate at one request: a handler is called only for an authorized request, and any other
request is answered with 401. -/
structure GateHolds (app : AppConfig) (req : Request) : Prop where
  handled : ∀ handler, buildApp app req = .handled handler → Authorized app.decode app.jwtSecret req
  refused : ¬ Authorized app.decode app.jwtSecret req → buildApp app req = unauthorized

/-- The application keeps the gate exactly for the requests that are authorized anyway. -/
theorem gateHolds_iff (app : AppConfig) (req : Request) (hpath : Guarded req.path) :
    GateHolds app req ↔ Authorized app.decode app.jwtSecret req := by
  constructor
  · intro hgate
    by_contra hnot
    exact buildApp_ne_unauthorized hpath.api (hgate.refused hnot)
  · intro hauth
    exact ⟨fun _ _ => hauth, fun hnot => absurd hauth hnot⟩

/-- An application without any valid token. -/
def sampleApp : AppConfig where
  decode := fun _ _ => none
  jwtSecret := "secret"
  corsOrigins := []
  assets := fun _ => false

/-- `GET /api/proxies` without an `Authorization` header. -/
def anonymousList : Request where
  method := .get
  path := "/api/proxies"
  authorization := none
  params := []

/-- An anonymous request for the list of rules. -/
theorem gateHolds_iff_sample :
    GateHolds sampleApp anonymousList ↔
      Authorized sampleApp.decode sampleApp.jwtSecret anonymousList :=
  gateHolds_iff sampleApp anonymousList
    { api := by decide, not_login := by decide, not_ws := by decide }

/-- Without a token the list of rules is handed out. -/
theorem anonymous_list_is_served :
    ¬ ∀ (app : AppConfig) (req : Request), Guarded req.path → GateHolds app req := by
  intro h
  have hgate := h sampleApp anonymousList
    { api := by decide, not_login := by decide, not_ws := by decide }
  have hserved : buildApp sampleApp anonymousList = .handled .listProxies := by decide
  obtain ⟨token, claims, hheader, -⟩ := hgate.handled _ hserved
  cases hheader

end RustProxy.Web
