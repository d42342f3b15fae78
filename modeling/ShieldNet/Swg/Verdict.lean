import Mathlib.Data.Char
import Mathlib.Data.List.Dedup
import Mathlib.Data.List.Lex
import Mathlib.Data.List.Sort
import ShieldNet.Lib.Fallible
import ShieldNet.Lib.Text

/-!
# Requests and verdicts of the secure web gateway

Envoy asks the gateway about each request (`crates/sng-swg/src/auth.rs`): it sends
the headers, and the gateway decodes from them the context that the stages of the
verdict look at (`verdict.rs`). Names and the method are lowered on the way.

Which categories are denied is a policy of exact names and of groups, where a
group stands for everything below it.
-/

namespace ShieldNet.Swg

open Text

open Text (asciiLower)

/-! ## Verdicts -/

inductive Action where
  | allow
  | deny
  | bypass
  | rateLimit
  | redirect
  deriving DecidableEq

structure Verdict where
  action : Action
  reason : Text
  category : Option Text := none
  retryAfterSecs : Option Nat := none
  redirectUrl : Option Text := none

namespace Verdict

variable (reason : Text)

def allow : Verdict := ⟨.allow, reason, none, none, none⟩

def allowUncategorized : Verdict := allow "allow.uncategorized".toList

def allowCategorized (category : Text) : Verdict :=
  ⟨.allow, "allow.".toList ++ category, some category, none, none⟩

def deny : Verdict := ⟨.deny, reason, none, none, none⟩

def denyCategorized (category : Text) : Verdict :=
  ⟨.deny, "deny.".toList ++ category, some category, none, none⟩

def bypass : Verdict := ⟨.bypass, reason, none, none, none⟩

def rateLimit (retryAfterSecs : Nat) : Verdict :=
  ⟨.rateLimit, reason, none, some retryAfterSecs, none⟩

def redirect (reason url : Text) : Verdict := ⟨.redirect, reason, none, none, some url⟩

end Verdict

/-! ## Requests -/

@[ext] structure RequestContext where
  tenantId : Text
  principalId : Text
  method : Text
  scheme : Text
  host : Text
  path : Text
  sni : Option Text
  fileHash : Option Text
  deriving DecidableEq

/-- Lowered, and the path up to the query. -/
def RequestContext.normalize (ctx : RequestContext) : RequestContext := { ctx with
    method := asciiLower ctx.method
    scheme := asciiLower ctx.scheme
    host := asciiLower ctx.host
    path := ctx.path.takeWhile (· ≠ '?')
    sni := ctx.sni.map asciiLower
    fileHash := ctx.fileHash.map asciiLower }

structure RequestSignals where
  contentLength : Option Nat
  sensitivityLabel : Option Text

structure ExtAuthzRequest where
  headers : List (Text × Text)
  bodySha256 : Option Text
  bodyB64 : Option Text

open ExtAuthzRequest

inductive SwgError where
  | extAuthzDecode (message : Text)
  deriving DecidableEq

def eqIgnoreCase (one two : Text) : Bool := asciiLower one = asciiLower two

/-- `parse::<u64>`; a leading plus is taken. -/
def parseU64 (text : Text) : Option Nat :=
  (decimal ((stripPrefix ['+'] text).getD text)).filter (· < 2 ^ 64)

namespace ExtAuthzRequest

variable (request : ExtAuthzRequest)

def header (name : String) : Option Text :=
  (request.headers.find? fun entry => eqIgnoreCase entry.1 name.toList).map Prod.snd

/-- A header that has to be there, and not be empty. -/
def require (name : String) : Except SwgError Text :=
  match (request.header name).filter (· ≠ []) with
  | some value => .ok value
  | none => .error (.extAuthzDecode ("missing header: ".toList ++ name.toList))

def intoContext : Except SwgError RequestContext := do
  let method ← request.require ":method"
  let scheme ← request.require ":scheme"
  let path ← request.require ":path"
  let host ← request.require "host"
  let tenantId ← request.require "x-sng-tenant"
  let principalId ← request.require "x-sng-principal"
  let sni := (request.header "x-sng-sni").filter (· ≠ [])
  .ok (RequestContext.normalize
    ⟨tenantId, principalId, method, scheme, host, path, sni, request.bodySha256⟩)

def signals : RequestSignals where
  contentLength := (request.header "content-length").bind fun value =>
    parseU64 (trimSpace value)
  sensitivityLabel := ((request.header "x-sng-dlp-label").map trimSpace).filter (· ≠ [])

end ExtAuthzRequest

/-! ## Denied categories -/

/-- Both lists are sorted, so that looking a name up by halves is membership. -/
structure CategoryDenyPolicy where
  exact : List Text := []
  groups : List Text := []

namespace CategoryDenyPolicy

/-- In order, and each once. -/
def sortDedup (names : List Text) : List Text := (names.insertionSort (· ≤ ·)).dedup

variable (policy : CategoryDenyPolicy)

def addExact (names : List Text) : CategoryDenyPolicy :=
  let added := (names.map fun name => asciiLower (trimSpace name)).filter (· ≠ [])
  { policy with exact := sortDedup (policy.exact ++ added) }

/-- The dots at the end are not part of the name. -/
def addGroups (names : List Text) : CategoryDenyPolicy :=
  let added := (names.map fun name =>
    asciiLower ((trimSpace name).rdropWhile (· = '.'))).filter (· ≠ [])
  { policy with groups := sortDedup (policy.groups ++ added) }

def inGroup (category group : Text) : Bool :=
  category = group || (stripPrefix group category).any fun rest => ['.'].isPrefixOf rest

def findRule (category : Text) : Option Text :=
  if category ∈ policy.exact then some category else policy.groups.find? (inGroup category)

def isDenied (category : Text) : Bool := (policy.findRule (asciiLower category)).isSome

end CategoryDenyPolicy

/-! ## Spellings of a destination -/

/-- The names are equal up to case, or up to case and one dot at the end. -/
def SameName (one two : Text) : Prop :=
  asciiLower one = asciiLower two ∨ asciiLower one ++ ['.'] = asciiLower two ∨
    asciiLower one = asciiLower two ++ ['.']

def NamesDestination (key : Text) : Prop :=
  eqIgnoreCase key "host".toList = true ∨ eqIgnoreCase key "x-sng-sni".toList = true

instance (key : Text) : Decidable (NamesDestination key) := inferInstanceAs (Decidable (_ ∨ _))

/-- Two headers that are equal, or name the destination in spellings that `alike` relates. -/
def SameHeader (alike : Text → Text → Prop) (one two : Text × Text) : Prop :=
  one.1 = two.1 ∧ (one.2 = two.2 ∨ NamesDestination one.1 ∧ alike one.2 two.2)

/-- Two requests that differ in the spelling of the destination alone. -/
structure SameRequest (alike : Text → Text → Prop) (one two : ExtAuthzRequest) : Prop where
  headers : List.Forall₂ (SameHeader alike) one.headers two.headers
  bodySha256 : one.bodySha256 = two.bodySha256
  bodyB64 : one.bodyB64 = two.bodyB64

variable {alike : Text → Text → Prop} {one two : ExtAuthzRequest} {name : String}

section

variable (same : SameRequest alike one two)
include same

/-- A header is found in both, in spellings that are equal or alike. -/
theorem SameRequest.header (name : String) : (one.header name = none ∧ two.header name = none) ∨
    ∃ value other, one.header name = some value ∧ two.header name = some other ∧
      (value = other ∨ NamesDestination name.toList ∧ alike value other) := by
  have related := same.headers
  unfold ExtAuthzRequest.header
  generalize one.headers = first, two.headers = second at related
  induction related with
  | nil => exact .inl ⟨rfl, rfl⟩
  | @cons entry entry' rest rest' here _ ih =>
    obtain ⟨keys, values⟩ := here
    cases found : eqIgnoreCase entry.1 name.toList with
    | false =>
      have foundToo : eqIgnoreCase entry'.1 name.toList = false := keys ▸ found
      rw [List.find?_cons_of_neg (by simp [found]), List.find?_cons_of_neg (by simp [foundToo])]
      exact ih
    | true =>
      have foundToo : eqIgnoreCase entry'.1 name.toList := keys ▸ found
      rw [List.find?_cons_of_pos (by simp [found]), List.find?_cons_of_pos (by simp [foundToo])]
      refine .inr ⟨_, _, rfl, rfl, values.imp_right fun ⟨names, spelt⟩ => ⟨?_, spelt⟩⟩
      have lowered : asciiLower entry.1 = asciiLower name.toList := of_decide_eq_true found
      simpa only [NamesDestination, eqIgnoreCase, lowered] using names

theorem SameRequest.header_eq (other : ¬ NamesDestination name.toList)
    : one.header name = two.header name := by
  rcases same.header name with ⟨missing, missingToo⟩ | ⟨value, value', here, there, equal⟩
  · rw [missing, missingToo]
  · rcases equal with rfl | ⟨names, -⟩
    · rw [here, there]
    · exact absurd names other

theorem SameRequest.require_eq (other : ¬ NamesDestination name.toList)
    : one.require name = two.require name := by
  rw [require, require, same.header_eq other]

theorem SameRequest.signals_eq : one.signals = two.signals := by
  rw [signals, signals, same.header_eq (by decide), same.header_eq (by decide)]

end

/-- The name that a value stands for, where it is not empty. -/
def presentName (value : Text) : Option Text := (some (asciiLower value)).filter (· ≠ [])

theorem map_asciiLower_filter (value : Text) :
    ((some value).filter (· ≠ [])).map asciiLower = presentName value := by
  cases value with
  | _ => rfl

/-- What the contexts of two such requests have in common. -/
structure SameContext (alike : Text → Text → Prop) (first second : RequestContext) : Prop where
  tenantId : first.tenantId = second.tenantId
  principalId : first.principalId = second.principalId
  method : first.method = second.method
  scheme : first.scheme = second.scheme
  path : first.path = second.path
  fileHash : first.fileHash = second.fileHash
  nonempty : first.host ≠ []
  nonemptyToo : second.host ≠ []
  host : first.host = second.host ∨ ∃ value other, alike value other ∧
    first.host = asciiLower value ∧ second.host = asciiLower other
  sni : first.sni = second.sni ∨ ∃ value other, alike value other ∧
    first.sni = presentName value ∧ second.sni = presentName other

theorem require_eq_ok {value : Text} (found : one.require name = .ok value) :
    one.header name = some value ∧ value ≠ [] := by
  rw [require] at found
  split at found
  case h_1 _ present =>
    cases found
    exact ⟨(Option.filter_eq_some_iff.mp present).1,
      of_decide_eq_true (Option.filter_eq_some_iff.mp present).2⟩
  case h_2 => cases found

theorem SameRequest.eq_of_require (same : SameRequest alike one two) {value value' : Text}
    (found : one.require name = .ok value) (foundToo : two.require name = .ok value')
    (other : ¬ NamesDestination name.toList) : value = value' := by
  rw [same.require_eq other] at found
  exact Except.ok.inj (found.symm.trans foundToo)

/-- **The contexts of requests for one destination differ in its spelling alone.** -/
theorem SameRequest.context (same : SameRequest alike one two) {first second : RequestContext}
    (decoded : one.intoContext = .ok first) (decodedToo : two.intoContext = .ok second) :
    SameContext alike first second := by
  obtain ⟨method, methodOne, decoded⟩ := bind_eq_ok decoded
  obtain ⟨scheme, schemeOne, decoded⟩ := bind_eq_ok decoded
  obtain ⟨path, pathOne, decoded⟩ := bind_eq_ok decoded
  obtain ⟨host, hostOne, decoded⟩ := bind_eq_ok decoded
  obtain ⟨tenant, tenantOne, decoded⟩ := bind_eq_ok decoded
  obtain ⟨principal, principalOne, decoded⟩ := bind_eq_ok decoded
  obtain ⟨method', methodTwo, decodedToo⟩ := bind_eq_ok decodedToo
  obtain ⟨scheme', schemeTwo, decodedToo⟩ := bind_eq_ok decodedToo
  obtain ⟨path', pathTwo, decodedToo⟩ := bind_eq_ok decodedToo
  obtain ⟨host', hostTwo, decodedToo⟩ := bind_eq_ok decodedToo
  obtain ⟨tenant', tenantTwo, decodedToo⟩ := bind_eq_ok decodedToo
  obtain ⟨principal', principalTwo, decodedToo⟩ := bind_eq_ok decodedToo
  cases decoded
  cases decodedToo
  obtain ⟨hostFound, nonempty⟩ := require_eq_ok hostOne
  obtain ⟨hostFoundToo, nonemptyToo⟩ := require_eq_ok hostTwo
  refine ⟨same.eq_of_require tenantOne tenantTwo (by decide),
    same.eq_of_require principalOne principalTwo (by decide),
    congrArg asciiLower (same.eq_of_require methodOne methodTwo (by decide)),
    congrArg asciiLower (same.eq_of_require schemeOne schemeTwo (by decide)),
    congrArg (List.takeWhile _) (same.eq_of_require pathOne pathTwo (by decide)),
    congrArg (Option.map asciiLower) same.bodySha256, ?_, ?_, ?_, ?_⟩
  · simpa [RequestContext.normalize, asciiLower] using nonempty
  · simpa [RequestContext.normalize, asciiLower] using nonemptyToo
  · rcases same.header "host" with ⟨missing, -⟩ | ⟨value, value', here, there, equal⟩
    · cases missing.symm.trans hostFound
    · obtain rfl := Option.some.inj (here.symm.trans hostFound)
      obtain rfl := Option.some.inj (there.symm.trans hostFoundToo)
      rcases equal with rfl | ⟨-, spelt⟩
      · exact .inl rfl
      · exact .inr ⟨_, _, spelt, rfl, rfl⟩
  · rcases same.header "x-sng-sni" with ⟨missing, missingToo⟩ | ⟨value, value', here, there, equal⟩
    · exact .inl (by simp only [RequestContext.normalize, missing, missingToo])
    · rcases equal with rfl | ⟨-, spelt⟩
      · exact .inl (by simp only [RequestContext.normalize, here, there])
      · refine .inr ⟨value, value', spelt, ?_, ?_⟩
        · rw [← map_asciiLower_filter, ← here]
          rfl
        · rw [← map_asciiLower_filter, ← there]
          rfl

end ShieldNet.Swg
