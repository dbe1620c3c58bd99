import Mathlib.Data.List.Basic
import Mathlib.Tactic.Common

/-!
# Routers

What the web module uses of axum's `Router`: routes with path patterns, `nest`, `layer` and
`fallback`.

* A service maps a request to an outcome: the handler that is called, or a status that is sent
  without calling one.
* `nest` registers every route of the inner router under the longer pattern; its services, layers
  included, get the request with the prefix stripped from the path.  A path under the prefix that
  matches none of them goes to the outer router's fallback.
* `layer` wraps the services of the routes that are there when it is called.
-/

namespace RustProxy.Web

/-- Source: `str::starts_with`. -/
def startsWith (s pre : String) : Bool := pre.toList.isPrefixOf s.toList

/-- The methods of HTTP that the routes distinguish. -/
inductive Method where
  | get
  | head
  | post
  | put
  | delete
  | options
  | other (name : String)
  deriving DecidableEq, Repr

/-- The parts of a request that routing and authentication read: `uri().path()`, the first value of
the header `Authorization`, and the path parameters the router has set. -/
structure Request where
  method : Method
  path : String
  authorization : Option (List UInt8)
  params : List String
  deriving DecidableEq, Repr

/-- A part of a path pattern: fixed text, or a parameter that stands for one non-empty segment. -/
inductive Part where
  | lit (text : String)
  | param (name : String)
  deriving DecidableEq, Repr

/-- A path pattern. -/
abbrev Pattern := List Part

/-- The parameters a pattern finds in a path, if it matches the whole path. -/
def Pattern.capture : Pattern → List Char → Option (List String)
  | [], [] => some []
  | [], _ :: _ => none
  | .lit text :: rest, path =>
      if text.toList.isPrefixOf path then capture rest (path.drop text.toList.length) else none
  | .param _ :: rest, path =>
      let value := path.takeWhile (· ≠ '/')
      if value = [] then none
      else (capture rest (path.dropWhile (· ≠ '/'))).map (String.ofList value :: ·)

variable {ω : Type*}

/-- A route: a pattern and the service behind it. -/
structure Route (ω : Type*) where
  pattern : Pattern
  service : Request → ω

/-- A router. -/
structure Router (ω : Type*) where
  routes : List (Route ω)
  fallback : Request → ω

namespace Router

/-- `Router::layer`. -/
def layer (r : Router ω) (f : (Request → ω) → Request → ω) : Router ω where
  routes := r.routes.map fun route => { route with service := f route.service }
  fallback := f r.fallback

/-- The path without the prefix. -/
def stripPrefix (pre path : String) : String := String.ofList (path.toList.drop pre.toList.length)

/-- A route of a nested router. -/
def nestRoute (pre : String) (route : Route ω) : Route ω where
  pattern := .lit pre :: route.pattern
  service := fun req => route.service { req with path := stripPrefix pre req.path }

/-- `Router::nest`, for an inner router whose fallback is the default one. -/
def nest (r : Router ω) (pre : String) (inner : Router ω) : Router ω :=
  { r with routes := r.routes ++ inner.routes.map (nestRoute pre) }

/-- `Router::route`. -/
def route (r : Router ω) (pattern : Pattern) (service : Request → ω) : Router ω :=
  { r with routes := r.routes ++ [{ pattern, service }] }

/-- The first route whose pattern matches the path serves the request. -/
def callRoutes (fallback : Request → ω) : List (Route ω) → Request → ω
  | [], req => fallback req
  | route :: routes, req =>
      match route.pattern.capture req.path.toList with
      | some params => route.service { req with params }
      | none => callRoutes fallback routes req

/-- A request is served. -/
def call (r : Router ω) (req : Request) : ω := callRoutes r.fallback r.routes req

/-! ## What serves a request -/

/-- What the fallback and every matching route do to a request, the router does. -/
lemma callRoutes_ind {P : ω → Prop} {fallback : Request → ω} {routes : List (Route ω)}
    {req : Request} (hfallback : P (fallback req))
    (hroutes : ∀ route ∈ routes, ∀ params, route.pattern.capture req.path.toList = some params →
      P (route.service { req with params })) : P (callRoutes fallback routes req) := by
  induction routes with
  | nil => exact hfallback
  | cons route routes ih =>
      unfold callRoutes
      split
      · case h_1 params hmatch => exact hroutes route List.mem_cons_self params hmatch
      · exact ih fun r hr => hroutes r (List.mem_cons_of_mem _ hr)

/-- A pattern that begins with fixed text matches paths that begin with it. -/
lemma eq_append_of_capture {text : String} {rest : Pattern} {path : List Char}
    {params : List String} (h : Pattern.capture (.lit text :: rest) path = some params) :
    ∃ tail, path = text.toList ++ tail ∧ Pattern.capture rest tail = some params := by
  unfold Pattern.capture at h
  split at h
  · case isTrue hstart =>
    obtain ⟨tail, rfl⟩ := List.isPrefixOf_iff_prefix.mp hstart
    exact ⟨tail, rfl, by simpa using h⟩
  · cases h

/-- What a nested route is given: the part of the path behind the prefix. -/
lemma stripPrefix_append {pre path : String} {tail : List Char}
    (h : path.toList = pre.toList ++ tail) : stripPrefix pre path = String.ofList tail := by
  rw [stripPrefix, h, List.drop_left]

end Router

end RustProxy.Web
