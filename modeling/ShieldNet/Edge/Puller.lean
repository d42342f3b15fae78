import ShieldNet.Lib.Runs
import ShieldNet.Identity.Store
import ShieldNet.Policy.Graph

/-!
# Pulling bundles

`PolicyPuller` of `crates/sng-comms/src/policy.rs` and the pull loop of
`crates/sng-edge/src/subsystems/comms.rs`. A tick connects if it has to, pulls with
the tag of the cached bundle, and hands a fresh bundle to the publisher. The puller
caches a bundle before the publisher sees it, and the loop only logs what the
publisher refuses.

The loop is taken with any publisher, and its ticks with whatever the control plane
answers. Where every bundle is newer than the cached one, the cache is what the
publisher installed last at each tick that finds nothing modified, exactly when the
publisher took the last fresh bundle before each such tick
(`not_modified_in_sync_iff`).
-/

namespace ShieldNet.Edge

open Identity (Uuid nilUuid)
open Policy (BundleTarget)

/-! ## Responses -/

/-- Header values by lower-case name; `none` is a value that is no visible ASCII. -/
abbrev Headers := List (String × Option Text)

def Headers.text (headers : Headers) (name : String) : Option Text := (headers.lookup name).join

structure CollectedResponse where
  status : Nat
  headers : Headers
  body : List UInt8

inductive ResponseClass where
  | success
  | notModified
  | unauthorized
  | badRequest
  | notFound
  | rateLimited
  | serverError
  | other

def ResponseClass.fromStatus (status : Nat) : ResponseClass :=
  if status = 304 then .notModified
  else if 200 ≤ status ∧ status ≤ 299 then .success
  else if status = 401 ∨ status = 403 then .unauthorized
  else if status = 400 ∨ status = 422 then .badRequest
  else if status = 404 then .notFound
  else if status = 429 then .rateLimited
  else if 500 ≤ status ∧ status ≤ 599 then .serverError
  else .other

def CollectedResponse.classify (response : CollectedResponse) : ResponseClass :=
  .fromStatus response.status

inductive VerificationError where
  | unknownSigningKey (keyId : Text)
  | ephemeralSigningKey
  | signatureInvalid
  | bodySchema (reason : String)
  | targetMismatch (bundleId : Uuid) (actual expected : BundleTarget)
  | stale (bundleId : Uuid) (found current : Int)

/-- `CommsError`, the errors that a pull can end with; `permanent` stands for those of
the transport that leave the connection usable. -/
inductive CommsError where
  | connect (reason : String)
  | alpnMismatch
  | io (reason : String)
  | http2 (reason : String)
  | permanent (reason : String)
  | server (responseClass : ResponseClass) (reason : String)
  | policy (error : VerificationError)
  | policyVersion (reason : String)

def CommsError.isConnectionFatal : CommsError → Bool
  | .connect _ | .http2 _ | .io _ | .alpnMismatch => true
  | .permanent _ | .server .. | .policy _ | .policyVersion _ => false

/-! ## Entity tags -/

structure EntityTag where
  weak : Bool
  tag : Text

namespace EntityTag

def parse (raw : Text) : Option EntityTag := do
  let (weak, body) := (Text.stripPrefix ['W', '/'] raw).elim (false, raw) fun rest => (true, rest)
  let tag ← Text.stripSuffix ['"'] (← Text.stripPrefix ['"'] body)
  if '"' ∈ tag then none else some ⟨weak, tag⟩

def toHeaderValue (etag : EntityTag) : Text :=
  (if etag.weak then ['W', '/'] else []) ++ '"' :: etag.tag ++ ['"']

end EntityTag

/-! ## Bundles -/

structure PolicyBundle where
  body : List UInt8
  signature : List UInt8
  signingKeyId : Text

structure PolicyBundleClaims where
  target : BundleTarget
  graphVersion : Int

structure ResponseHeaders where
  etag : Option EntityTag
  lastModified : Option Text
  bundleId : Option Uuid
  graphId : Option Uuid

structure CachedBundle where
  bundle : PolicyBundle
  claims : PolicyBundleClaims
  headers : ResponseHeaders

/-- What the puller has from its libraries: Base64, UUIDs, MessagePack and
Ed25519. -/
structure Codecs where
  base64 : Text → Except String (List UInt8)
  uuid : Text → Option Uuid
  claims : List UInt8 → Except String PolicyBundleClaims
  verifies : (publicKey body signature : List UInt8) → Bool

abbrev PolicyVerifier := List (Text × List UInt8)

def PolicyVerifier.verify (codecs : Codecs) (keys : PolicyVerifier) (bundle : PolicyBundle) :
    Except VerificationError Unit :=
  if bundle.signingKeyId = [] then .error .ephemeralSigningKey
  else
    match keys.lookup bundle.signingKeyId with
    | none => .error (.unknownSigningKey bundle.signingKeyId)
    | some publicKey =>
      if codecs.verifies publicKey bundle.body bundle.signature then .ok ()
      else .error .signatureInvalid

namespace PolicyBundleClaims

def checkTarget (claims : PolicyBundleClaims) (bundleId : Uuid) (expected : BundleTarget) :
    Except VerificationError Unit :=
  if claims.target = expected then .ok ()
  else .error (.targetMismatch bundleId claims.target expected)

def checkNotStale (claims : PolicyBundleClaims) (bundleId : Uuid) (current : Option Int) :
    Except VerificationError Unit :=
  match current with
  | none => .ok ()
  | some current =>
    if claims.graphVersion ≥ current then .ok ()
    else .error (.stale bundleId claims.graphVersion current)

end PolicyBundleClaims

/-! ## The puller -/

def requiredHeader (headers : Headers) (name : String) : Except CommsError Text :=
  match headers.lookup name with
  | none => .error (.policyVersion ("missing required response header `" ++ name ++ "`"))
  | some none => .error (.policyVersion ("non-ASCII bytes in `" ++ name ++ "` header"))
  | some (some value) => .ok value

variable (codecs : Codecs)

/-- The signature of a response: 64 bytes in Base64. -/
def decodeSignature (raw : Text) : Except CommsError (List UInt8) :=
  match codecs.base64 raw with
  | .error e => .error (.policyVersion ("base64 decode of `x-sng-policy-signature`: " ++ e))
  | .ok bytes =>
    if bytes.length = 64 then .ok bytes
    else .error (.policyVersion ("`x-sng-policy-signature` must be 64 bytes (base64-decoded), got "
      ++ toString bytes.length))

def parseKeyId (raw : Text) : Except CommsError Text :=
  if raw = [] then
    .error (.policyVersion
      "invalid `x-sng-policy-key-id` value: policy signing key id must be non-empty")
  else if raw.length > 64 then
    .error (.policyVersion ("invalid `x-sng-policy-key-id` value: policy signing key id is "
      ++ toString raw.length ++ " chars, max 64"))
  else .ok raw

def decodeAndVerify (keys : PolicyVerifier) (body : List UInt8) (headers : Headers)
    : Except CommsError PolicyBundle := do
  let signature ← decodeSignature codecs (← requiredHeader headers "x-sng-policy-signature")
  let signingKeyId ← parseKeyId (← requiredHeader headers "x-sng-policy-key-id")
  let bundle : PolicyBundle := ⟨body, signature, signingKeyId⟩
  (keys.verify codecs bundle).mapError .policy
  .ok bundle

def parseResponseHeaders (headers : Headers) : ResponseHeaders where
  etag := (headers.text "etag").bind EntityTag.parse
  lastModified := headers.text "last-modified"
  bundleId := (headers.text "x-sng-policy-bundle-id").bind codecs.uuid
  graphId := (headers.text "x-sng-policy-graph-id").bind codecs.uuid

/-- The bundle of a response that passes every check on it alone. -/
def acceptBundle (target : BundleTarget) (keys : PolicyVerifier) (response : CollectedResponse)
    : Except CommsError CachedBundle := do
  let headers := parseResponseHeaders codecs response.headers
  let bundle ← decodeAndVerify codecs keys response.body response.headers
  let claims ← (codecs.claims bundle.body).mapError fun e =>
    .policy (.bodySchema ("decode claims: " ++ e))
  (claims.checkTarget (headers.bundleId.getD nilUuid) target).mapError .policy
  .ok ⟨bundle, claims, headers⟩

inductive BundlePullOutcome where
  | updated (cached : CachedBundle)
  | notModified

/-- The outcome, and the cache after it. -/
def handleResponse (target : BundleTarget) (keys : PolicyVerifier) (cached : Option CachedBundle)
    (response : CollectedResponse) : Except CommsError BundlePullOutcome × Option CachedBundle :=
  match response.classify with
  | .success =>
    match acceptBundle codecs target keys response with
    | .error e => (.error e, cached)
    | .ok fresh =>
      match fresh.claims.checkNotStale (fresh.headers.bundleId.getD nilUuid)
          (cached.map fun cached => cached.claims.graphVersion) with
      | .error e => (.error (.policy e), cached)
      | .ok () => (.ok (.updated fresh), some fresh)
  | .notModified =>
    match cached with
    | none =>
      (.error (.policyVersion "server returned 304 but client has no cached bundle"), cached)
    | some _ => (.ok .notModified, cached)
  | responseClass =>
    (.error (.server responseClass ("policy bundle pull returned " ++ toString response.status)),
      cached)

/-! ## The loop -/

inductive TickReport (E : Type) where
  | connectFailed (error : CommsError)
  | updated (body : List UInt8) (published : Except E Unit)
  | notModified
  | failed (error : CommsError)

/-- The connection, the puller's cache, the publisher, and the ticks so far. -/
structure PullLoop (P E : Type) where
  connected : Bool
  cached : Option CachedBundle
  publisher : P
  ticks : List (TickReport E)

/-- What the world decides at a tick: whether a connect succeeds, the keys in the
trust store, and what the request for the bundle comes back with. -/
structure TickInput where
  connect : Except CommsError Unit
  keys : PolicyVerifier
  response : Except CommsError CollectedResponse

structure PullConfig (P E : Type) where
  codecs : Codecs
  target : BundleTarget
  publish : P → BundleTarget → List UInt8 → Except E Unit × P

namespace PullLoop

variable {P E : Type}

def fresh (publisher : P) : PullLoop P E := ⟨false, none, publisher, []⟩

def fail (loop : PullLoop P E) (error : CommsError) : PullLoop P E := { loop with
    connected := !error.isConnectionFatal
    ticks := loop.ticks ++ [.failed error] }

variable (config : PullConfig P E)

/-- A pull over a connection, and what the loop does with it. -/
def pull (loop : PullLoop P E) (input : TickInput) : PullLoop P E :=
  match input.response with
  | .error e => loop.fail e
  | .ok response =>
    match handleResponse config.codecs config.target input.keys loop.cached response with
    | (.error e, _) => loop.fail e
    | (.ok .notModified, _) =>
      { loop with connected := true, ticks := loop.ticks ++ [.notModified] }
    | (.ok (.updated bundle), cached) =>
      { connected := true
        cached
        publisher := (config.publish loop.publisher config.target bundle.bundle.body).2
        ticks := loop.ticks ++ [.updated bundle.bundle.body
          (config.publish loop.publisher config.target bundle.bundle.body).1] }

def tick (loop : PullLoop P E) (input : TickInput) : PullLoop P E :=
  if loop.connected then loop.pull config input
  else
    match input.connect with
    | .error e => { loop with ticks := loop.ticks ++ [.connectFailed e] }
    | .ok () => loop.pull config input

def run (publisher : P) (inputs : List TickInput) : PullLoop P E :=
  inputs.foldl (tick config) (fresh publisher)

end PullLoop

/-! ## What a tick does -/

section Ticks

variable {P E : Type} {config : PullConfig P E} {loop : PullLoop P E} {input : TickInput}

theorem body_of_decodeAndVerify {codecs : Codecs} {keys : PolicyVerifier} {body : List UInt8}
    {headers : Headers} {bundle : PolicyBundle}
    (decoded : decodeAndVerify codecs keys body headers = .ok bundle) : bundle.body = body := by
  obtain ⟨_, -, decoded⟩ := bind_eq_ok decoded
  obtain ⟨_, -, decoded⟩ := bind_eq_ok decoded
  obtain ⟨_, -, decoded⟩ := bind_eq_ok decoded
  obtain ⟨_, -, decoded⟩ := bind_eq_ok decoded
  obtain ⟨_, -, decoded⟩ := bind_eq_ok decoded
  cases decoded
  rfl

theorem acceptBundle_ok {codecs : Codecs} {target : BundleTarget} {keys : PolicyVerifier}
    {response : CollectedResponse} {fresh : CachedBundle}
    (accepted : acceptBundle codecs target keys response = .ok fresh) :
    fresh.bundle.body = response.body ∧ codecs.claims response.body = .ok fresh.claims := by
  obtain ⟨bundle, decoded, accepted⟩ := bind_eq_ok accepted
  obtain ⟨claims, claimed, accepted⟩ := bind_eq_ok accepted
  obtain ⟨_, -, accepted⟩ := bind_eq_ok accepted
  cases accepted
  have body := body_of_decodeAndVerify decoded
  refine ⟨body, ?_⟩
  rw [body] at claimed
  cases result : codecs.claims response.body with
  | error e =>
    rw [result] at claimed
    cases claimed
  | ok decoded =>
    rw [result] at claimed
    cases claimed
    rfl

theorem checkNotStale_ok {claims : PolicyBundleClaims} {bundleId : Uuid} {current : Int}
    (fresh : claims.checkNotStale bundleId (some current) = .ok ()) :
    current ≤ claims.graphVersion := by
  rw [PolicyBundleClaims.checkNotStale] at fresh
  split at fresh
  case isTrue notOlder => exact notOlder
  case isFalse => cases fresh

/-- **What a response comes to**: a fresh bundle in the cache, the cache that stands,
or an error. -/
theorem handleResponse_cases (codecs : Codecs) (target : BundleTarget) (keys : PolicyVerifier)
    (cached : Option CachedBundle) (response : CollectedResponse) :
    (∃ fresh, response.classify = .success ∧ acceptBundle codecs target keys response = .ok fresh ∧
      (∀ current ∈ cached, current.claims.graphVersion ≤ fresh.claims.graphVersion) ∧
      handleResponse codecs target keys cached response = (.ok (.updated fresh), some fresh)) ∨
    (response.classify = .notModified ∧ cached.isSome = true ∧
      handleResponse codecs target keys cached response = (.ok .notModified, cached)) ∨
    ∃ e, (response.classify = .notModified → cached = none) ∧
      handleResponse codecs target keys cached response = (.error e, cached) := by
  unfold handleResponse
  cases response.classify with
  | success =>
    dsimp only
    split
    case h_1 e _ => exact .inr (.inr ⟨e, nofun, rfl⟩)
    case h_2 fresh accepted =>
      split
      case h_1 e _ => exact .inr (.inr ⟨.policy e, nofun, rfl⟩)
      case h_2 current =>
        refine .inl ⟨fresh, rfl, accepted, ?_, rfl⟩
        rintro previous rfl
        exact checkNotStale_ok current
  | notModified =>
    cases cached with
    | none => exact .inr (.inr ⟨_, fun _ => rfl, rfl⟩)
    | some => exact .inr (.inl ⟨rfl, rfl, rfl⟩)
  | _ =>
    exact .inr (.inr ⟨_, nofun, rfl⟩)

def AnsweredNotModified (loop : PullLoop P E) (input : TickInput) : Prop :=
  (loop.connected = true ∨ input.connect = .ok ()) ∧
    ∃ response, input.response = .ok response ∧ response.classify = .notModified

variable (config loop input) in
inductive Ticked : PullLoop P E → Prop where
  | published {response fresh}
      (answered : input.response = .ok response) (succeeded : response.classify = .success)
      (body : fresh.bundle.body = response.body)
      (claims : config.codecs.claims response.body = .ok fresh.claims)
      (current : ∀ cached ∈ loop.cached, cached.claims.graphVersion ≤ fresh.claims.graphVersion) :
      Ticked
        { connected := true
          cached := some fresh
          publisher := (config.publish loop.publisher config.target fresh.bundle.body).2
          ticks := loop.ticks ++ [.updated fresh.bundle.body
            (config.publish loop.publisher config.target fresh.bundle.body).1] }
  | notModified (answered : AnsweredNotModified loop input) (has : loop.cached.isSome = true) :
      Ticked { loop with connected := true, ticks := loop.ticks ++ [.notModified] }
  | connectFailed (error : CommsError) (down : ¬ AnsweredNotModified loop input) :
      Ticked { loop with ticks := loop.ticks ++ [.connectFailed error] }
  | failed (error : CommsError) (nothing : AnsweredNotModified loop input → loop.cached = none) :
      Ticked (loop.fail error)

theorem pull_ticked (up : loop.connected = true ∨ input.connect = .ok ()) :
    Ticked config loop input (loop.pull config input) := by
  unfold PullLoop.pull
  cases answered : input.response with
  | error e =>
    refine .failed e ?_
    rintro ⟨-, response, same, -⟩
    rw [answered] at same
    cases same
  | ok response =>
    dsimp only
    rcases handleResponse_cases config.codecs config.target input.keys loop.cached response with
      ⟨fresh, succeeded, accepted, current, result⟩ | ⟨unmodified, has, result⟩ |
      ⟨e, nothing, result⟩
    · obtain ⟨body, claims⟩ := acceptBundle_ok accepted
      rw [result]
      exact .published answered succeeded body claims current
    · rw [result]
      exact .notModified ⟨up, response, answered, unmodified⟩ has
    · rw [result]
      refine .failed e ?_
      rintro ⟨-, response', same, unmodified⟩
      cases answered.symm.trans same
      exact nothing unmodified

/-- **What one tick does.** -/
theorem tick_ticked (config : PullConfig P E) (loop : PullLoop P E) (input : TickInput) :
    Ticked config loop input (loop.tick config input) := by
  unfold PullLoop.tick
  split
  case isTrue connected => exact pull_ticked (.inl connected)
  case isFalse disconnected =>
    split
    case h_1 e refused =>
      refine .connectFailed e ?_
      rintro ⟨connected | connects, -⟩
      · exact disconnected connected
      · rw [refused] at connects
        cases connects
    case h_2 connects => exact pull_ticked (.inr connects)

/-- A tick with a bundle in the cache that gets a response that nothing has been modified
reports so. -/
theorem Ticked.eq_of_answered {next : PullLoop P E} (ticked : Ticked config loop input next)
    (answered : AnsweredNotModified loop input) (has : loop.cached.isSome = true) :
    next = { loop with connected := true, ticks := loop.ticks ++ [.notModified] } := by
  cases ticked with
  | published fresh succeeded =>
    obtain ⟨-, response, answered, unmodified⟩ := answered
    cases fresh.symm.trans answered
    cases succeeded.symm.trans unmodified
  | notModified => rfl
  | connectFailed e down => exact absurd answered down
  | failed e nothing =>
    rw [nothing answered] at has
    cases has

end Ticks

/-! ## Cache and publisher -/

section Agreement

variable {P E : Type} {config : PullConfig P E} {loop next : PullLoop P E} {input : TickInput}

variable (ticks : List (TickReport E))

def lastPublish : Option (List UInt8 × Except E Unit) := ticks.reverse.findSome? fun
    | .updated body published => some (body, published)
    | _ => none

def lastInstalled : Option (List UInt8) := ticks.reverse.findSome? fun
    | .updated body (.ok ()) => some body
    | _ => none

/-- The cache holds the bundle that the publisher installed last. -/
def PullLoop.InSync (loop : PullLoop P E) : Prop :=
  lastInstalled loop.ticks = loop.cached.map fun cached => cached.bundle.body

/-- The publisher has not refused the last bundle it was given. -/
def PullLoop.TookLast (loop : PullLoop P E) : Prop :=
  ∀ body e, lastPublish loop.ticks ≠ some (body, .error e)

def ReportsNotModified (config : PullConfig P E) (loop : PullLoop P E) (input : TickInput) : Prop :=
  (loop.tick config input).ticks = loop.ticks ++ [.notModified]

def GetsNewer (config : PullConfig P E) (loop : PullLoop P E) (input : TickInput) : Prop :=
  ∀ response claims, input.response = .ok response → response.classify = .success →
    config.codecs.claims response.body = .ok claims →
      ∀ cached ∈ loop.cached, cached.claims.graphVersion < claims.graphVersion

theorem lastPublish_append_updated (body : List UInt8) (published : Except E Unit) :
    lastPublish (ticks ++ [.updated body published]) = some (body, published) := by
  simp [lastPublish]

theorem lastInstalled_append_updated (body : List UInt8) (published : Except E Unit) :
    lastInstalled (ticks ++ [.updated body published]) = match published with
      | .ok () => some body
      | .error _ => lastInstalled ticks := by
  rcases published with e | ⟨⟩ <;> simp [lastInstalled]

theorem lastInstalled_eq_none {ticks : List (TickReport E)} (never : lastPublish ticks = none) :
    lastInstalled ticks = none := by
  rw [lastPublish, List.findSome?_eq_none_iff] at never
  rw [lastInstalled, List.findSome?_eq_none_iff]
  intro report listed
  cases report with
  | updated body published => cases never _ listed
  | _ => rfl

/-- What the cache and the ticks of the loop say of each other. -/
structure Tracks (codecs : Codecs) (loop : PullLoop P E) : Prop where
  given : loop.cached.map (fun cached => cached.bundle.body) = (lastPublish loop.ticks).map Prod.fst
  decoded : ∀ cached ∈ loop.cached, codecs.claims cached.bundle.body = .ok cached.claims
  installed : ∀ body, lastPublish loop.ticks = some (body, .ok ()) →
    lastInstalled loop.ticks = some body
  /-- A bundle that is installed is older than one that was refused since. -/
  refused : ∀ body e, lastPublish loop.ticks = some (body, .error e) →
    ∀ installed ∈ lastInstalled loop.ticks, ∃ claims, codecs.claims installed = .ok claims ∧
      ∀ cached ∈ loop.cached, claims.graphVersion < cached.claims.graphVersion

section

variable (tracks : Tracks config.codecs loop)

include tracks

/-- What is installed is older than a fresh bundle, whatever became of the bundle given
before. -/
theorem Tracks.older {fresh : PolicyBundleClaims}
    (newer : ∀ cached ∈ loop.cached, cached.claims.graphVersion < fresh.graphVersion)
    {installed : List UInt8} (isInstalled : lastInstalled loop.ticks = some installed) :
    ∃ claims, config.codecs.claims installed = .ok claims ∧
      claims.graphVersion < fresh.graphVersion := by
  cases given : lastPublish loop.ticks with
  | none =>
    rw [lastInstalled_eq_none given] at isInstalled
    cases isInstalled
  | some publish =>
    obtain ⟨body, published⟩ := publish
    have same := tracks.given
    rw [given, Option.map_some, Option.map_eq_some_iff] at same
    obtain ⟨cached, has, rfl⟩ := same
    cases published with
    | ok =>
      rw [tracks.installed _ given] at isInstalled
      cases isInstalled
      exact ⟨cached.claims, tracks.decoded cached has, newer cached has⟩
    | error e =>
      obtain ⟨claims, decoded, older⟩ := tracks.refused _ e given installed isInstalled
      exact ⟨claims, decoded, lt_trans (older cached has) (newer cached has)⟩

/-- A tick that gives the publisher nothing says nothing about it. -/
theorem Tracks.append (report : TickReport E)
    (cached : next.cached = loop.cached) (ticks : next.ticks = loop.ticks ++ [report])
    (quiet : ∀ body published, report ≠ .updated body published) : Tracks config.codecs next := by
  have given : lastPublish next.ticks = lastPublish loop.ticks := by
    rw [ticks]
    cases report with
    | updated body published => exact absurd rfl (quiet body published)
    | _ => simp [lastPublish]
  have installed : lastInstalled next.ticks = lastInstalled loop.ticks := by
    rw [ticks]
    cases report with
    | updated body published => exact absurd rfl (quiet body published)
    | _ => simp [lastInstalled]
  obtain ⟨same, decoded, took, refused⟩ := tracks
  rw [← given, ← cached] at same
  rw [← cached] at decoded
  rw [← given, ← installed] at took
  rw [← given, ← installed, ← cached] at refused
  exact ⟨same, decoded, took, refused⟩

/-- **A tick that gets no older bundle keeps track.** -/
theorem Tracks.ticked (newer : GetsNewer config loop input)
    (ticked : Ticked config loop input next) : Tracks config.codecs next := by
  cases ticked with
  | @published response fresh answered succeeded body claims =>
    refine ⟨?_, ?_, ?_, ?_⟩
    · rw [lastPublish_append_updated]
      rfl
    · intro cached isCached
      cases isCached
      rw [body]
      exact claims
    · intro given publishedOk
      rw [lastPublish_append_updated] at publishedOk
      obtain ⟨rfl, took⟩ := Prod.mk.inj (Option.some.inj publishedOk)
      rw [lastInstalled_append_updated, took]
    · intro given e refused installed isInstalled
      rw [lastPublish_append_updated] at refused
      obtain ⟨rfl, gaveError⟩ := Prod.mk.inj (Option.some.inj refused)
      rw [lastInstalled_append_updated, gaveError] at isInstalled
      obtain ⟨older, decoded, less⟩ :=
        tracks.older (newer response fresh.claims answered succeeded claims) isInstalled
      refine ⟨older, decoded, ?_⟩
      intro cached isCached
      cases isCached
      exact less
  | notModified => exact tracks.append .notModified rfl rfl nofun
  | connectFailed e => exact tracks.append (.connectFailed e) rfl rfl nofun
  | failed e => exact tracks.append (.failed e) rfl rfl nofun

theorem Tracks.inSync_iff (has : loop.cached.isSome = true) : loop.InSync ↔ loop.TookLast := by
  obtain ⟨cached, isCached⟩ := Option.isSome_iff_exists.mp has
  have same := tracks.given
  rw [isCached, Option.map_some, eq_comm, Option.map_eq_some_iff] at same
  obtain ⟨⟨body, published⟩, given, rfl⟩ := same
  rw [PullLoop.InSync, PullLoop.TookLast, isCached, given, Option.map_some]
  cases published with
  | ok =>
    refine ⟨fun _ => nofun, fun _ => ?_⟩
    exact tracks.installed _ given
  | error e =>
    constructor
    · intro inSync
      -- the cached bundle would be older than itself
      obtain ⟨claims, decoded, older⟩ := tracks.refused _ e given _ inSync
      have known := tracks.decoded cached isCached
      cases decoded.symm.trans known
      exact absurd (older cached isCached) (lt_irrefl _)
    · intro took
      exact absurd rfl (took _ e)

end

theorem Ticked.reports_iff (ticked : Ticked config loop input next) :
    next.ticks = loop.ticks ++ [.notModified] ↔
      AnsweredNotModified loop input ∧ loop.cached.isSome = true := by
  constructor
  · intro reports
    cases ticked with
    | notModified answered has => exact ⟨answered, has⟩
    | _ => cases List.append_cancel_left reports
  · rintro ⟨answered, has⟩
    rw [ticked.eq_of_answered answered has]

/-- Whenever a tick of the run reports that nothing has been modified, the cache holds
the bundle that the publisher installed last. -/
def CacheAgrees (config : PullConfig P E) (publisher : P) (inputs : List TickInput) : Prop :=
  ∀ before input after, inputs = before ++ input :: after →
    ReportsNotModified config (PullLoop.run config publisher before) input →
      (PullLoop.run config publisher before).InSync

/-- **Cache and publisher agree at every tick that finds nothing modified, exactly when
the publisher took the last bundle before each response that nothing was modified**,
for every publisher and all that the control plane can answer, where every bundle is
newer than the cached one. -/
theorem not_modified_in_sync_iff (config : PullConfig P E) (publisher : P) (inputs : List TickInput)
    (newer : AlongRun (PullLoop.tick config) (GetsNewer config) (.fresh publisher) inputs) :
    CacheAgrees config publisher inputs ↔ AlongRun (PullLoop.tick config)
        (fun loop input => AnsweredNotModified loop input → loop.TookLast) (.fresh publisher)
        inputs := by
  have agree : ∀ loop input, Tracks config.codecs loop →
      ((GetsNewer config loop input ∧ (ReportsNotModified config loop input → loop.InSync)) ↔
        GetsNewer config loop input ∧ (AnsweredNotModified loop input → loop.TookLast)) := by
    intro loop input tracks
    rw [ReportsNotModified, (tick_ticked config loop input).reports_iff]
    refine and_congr_right fun _ => ?_
    constructor
    · intro inSync answered
      cases has : loop.cached with
      | none =>
        have never := tracks.given
        rw [has, Option.map_none, eq_comm, Option.map_eq_none_iff] at never
        intro body e
        rw [never]
        nofun
      | some cached =>
        have isSome : loop.cached.isSome = true := by rw [has]; rfl
        exact (tracks.inSync_iff isSome).mp (inSync ⟨answered, isSome⟩)
    · rintro took ⟨answered, has⟩
      exact (tracks.inSync_iff has).mpr (took answered)
  have runs := @AlongRun.congr _ _ _ _ _ (.fresh publisher) inputs (Tracks config.codecs) agree
    (fun loop input tracks both => tracks.ticked both.1 (tick_ticked config loop input))
    ⟨rfl, nofun, nofun, nofun⟩
  rw [alongRun_and, alongRun_and, and_iff_right newer, and_iff_right newer] at runs
  rw [← runs, CacheAgrees, alongRun_iff_forall]
  rfl

end Agreement

/-! ## The control plane's answer -/

def hexEncode (bytes : List UInt8) : Text :=
  bytes.flatMap fun byte => [Nat.digitChar (byte.toNat / 16), Nat.digitChar (byte.toNat % 16)]

/-- The bundle that the control plane serves: its row, with the Base64 of the
signature and the ids as text. -/
structure ServedBundle where
  id : Text
  policyGraphId : Text
  signature : Text
  keyId : Text
  sha256 : List UInt8
  createdAt : Nat
  body : List UInt8

structure ConditionalHeaders where
  ifNoneMatch : Option Text
  ifModifiedSince : Option Text

def CachedBundle.conditionalRequestHeaders (cached : CachedBundle) : ConditionalHeaders where
  ifNoneMatch := cached.headers.etag.map EntityTag.toHeaderValue
  ifModifiedSince := cached.headers.lastModified

structure HttpDates where
  format : Nat → Text
  parse : Text → Option Nat

def isBlank (c : Char) : Bool := c = ' ' || c = '\t'

def splitCommaTrim (value : Text) : List Text := ((value.splitOn ',').map fun token =>
    ((token.dropWhile isBlank).reverse.dropWhile isBlank).reverse).filter (· ≠ [])

def etagMatches (value etag : Text) : Bool :=
  value = ['*'] || (splitCommaTrim value).any fun token =>
    ((Text.stripPrefix ['W', '/'] token).or (Text.stripPrefix ['w', '/'] token)).getD token = etag

namespace ServedBundle

def etag (served : ServedBundle) : Text := '"' :: hexEncode served.sha256 ++ ['"']

def headers (dates : HttpDates) (served : ServedBundle) : Headers :=
  [("etag", some served.etag), ("last-modified", some (dates.format served.createdAt)),
    ("x-sng-policy-signature", some served.signature), ("x-sng-policy-bundle-id", some served.id),
    ("x-sng-policy-graph-id", some served.policyGraphId)] ++
    if served.keyId = [] then [] else [("x-sng-policy-key-id", some served.keyId)]

/-- `downloadBundle`, on a bundle that stays the latest. -/
def downloadBundle (dates : HttpDates) (served : ServedBundle) (request : ConditionalHeaders) :
    CollectedResponse :=
  let notModified : Bool :=
    if request.ifNoneMatch.getD [] ≠ [] then etagMatches (request.ifNoneMatch.getD []) served.etag
    else if request.ifModifiedSince.getD [] ≠ [] then
      (dates.parse (request.ifModifiedSince.getD [])).any fun since => served.createdAt ≤ since
    else false
  if notModified then ⟨304, served.headers dates, []⟩ else ⟨200, served.headers dates, served.body⟩

end ServedBundle

theorem hexEncode_forall (property : Char → Prop) (digits : ∀ n < 16, property (Nat.digitChar n))
    {bytes : List UInt8} {c : Char} (listed : c ∈ hexEncode bytes) : property c := by
  rw [hexEncode, List.mem_flatMap] at listed
  obtain ⟨byte, -, listed⟩ := listed
  have bound := byte.toNat_lt
  rw [List.mem_cons, List.mem_singleton] at listed
  rcases listed with rfl | rfl
  · exact digits _ (by omega)
  · exact digits _ (by omega)

/-! ## Runs -/

def sampleCodecs : Codecs where
  base64 _ := .ok (List.replicate 64 0)
  uuid _ := none
  claims
    | [version] => .ok ⟨.edge, version.toNat⟩
    | _ => .error "short"
  verifies _ _ _ := true

def sampleConfig : PullConfig (List (Except String Unit)) String where
  codecs := sampleCodecs
  target := .edge
  publish answers _ _ := (answers.headD (.ok ()), answers.tail)

variable (version : UInt8)

def sampleServed : ServedBundle := ⟨[], [], [], ['k'], [version], version.toNat, [version]⟩

def sampleDates : HttpDates := ⟨fun _ => [], fun _ => none⟩

def sampleTick (request : ConditionalHeaders) : TickInput where
  connect := .ok ()
  keys := [(['k'], [])]
  response := .ok ((sampleServed version).downloadBundle sampleDates request)

def sampleRequest : ConditionalHeaders := ⟨some (sampleServed version).etag, some []⟩

def sampleTicks : List TickInput :=
  [sampleTick 1 ⟨none, none⟩, sampleTick 2 (sampleRequest 1), sampleTick 2 (sampleRequest 2)]

theorem sampleTicks_newer (answers : List (Except String Unit)) :
    AlongRun (PullLoop.tick sampleConfig) (GetsNewer sampleConfig) (.fresh answers)
      sampleTicks := by
  refine ⟨?_, ?_, ?_, trivial⟩
  · rintro response claims answered - decoded cached isCached
    cases isCached
  · rintro response claims answered - decoded cached isCached
    cases answered
    cases decoded
    cases isCached
    decide
  · rintro response claims answered succeeded
    cases answered
    cases succeeded

theorem published_ticks_agree : CacheAgrees sampleConfig [.ok (), .ok ()] sampleTicks :=
  (not_modified_in_sync_iff sampleConfig _ sampleTicks (sampleTicks_newer _)).mpr
    ⟨fun _ _ _ => nofun, fun _ _ _ => nofun, fun _ _ _ => nofun, trivial⟩

/-- **The cache runs ahead of a publisher that refuses a bundle.** The second bundle is
refused and cached; the next request carries its tag, the control plane then finds nothing
modified, and the publisher is left with the first. -/
theorem refused_bundle_stays_cached :
    let loop := PullLoop.run sampleConfig [.ok (), .error "refused"] (sampleTicks.take 2)
    ¬ CacheAgrees sampleConfig [.ok (), .error "refused"] sampleTicks ∧
      lastInstalled loop.ticks = some [1] ∧
      loop.cached.map (fun cached => cached.bundle.body) = some [2] ∧
      loop.cached.map CachedBundle.conditionalRequestHeaders = some (sampleRequest 2) := by
  refine ⟨?_, rfl, rfl, rfl⟩
  intro agrees
  have inSync := agrees (sampleTicks.take 2) _ [] rfl rfl
  cases inSync

end ShieldNet.Edge
