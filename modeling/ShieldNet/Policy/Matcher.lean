import ShieldNet.Lib.Ip
import ShieldNet.Lib.Serde

/-!
# The matcher language of the enforcement plane

The typed matchers of `crates/sng-policy-eval/src/matcher.rs` and the readers
that turn an opaque `match` document into one. Matchers of a kind this version
does not know are read as `unknown` and match nothing.

Parsing the text of an address or of a network belongs to the standard library
and to the `ipnet` crate, and reading a number to `serde_json`; they are
parameters (`RustText`).
-/

namespace ShieldNet.Policy

open Serde

/-- What the enforcement plane reads from texts by code outside the repository:
networks (`ipnet::IpNet::from_str`), addresses (`IpAddr::from_str`), and which
number texts `serde_json` can represent. -/
structure RustText where
  parseNet : String → Option IpNet
  parseAddr : String → Option IpAddr
  numberInRange : String → Bool

inductive SubjectMatch where
  | any
  | literal (value : String)
  | anyOf (values : List String)
  | domainSuffix (suffix : String)
  | cidr (net : IpNet)
  | unknown
  deriving DecidableEq

inductive PredicateMatch where
  | always
  | contextEquals (key value : String)
  | contextIn (key : String) (values : List String)
  | dstCidr (net : IpNet)
  | unknown
  deriving DecidableEq

/-! ## Matching -/

/-- Exactly one label below the suffix. -/
def domainSuffixMatch (suffix value : String) : Bool :=
  let base := (Text.stripPrefix ['*', '.'] suffix.toList).getD suffix.toList
  if base.isEmpty || value.toList.isEmpty then false
  else
    let valueLc := Text.asciiLower value.toList
    let baseLc := Text.asciiLower base
    if valueLc = baseLc then false
    else
      match (Text.stripSuffix baseLc valueLc).bind (Text.stripSuffix ['.']) with
      | none => false
      | some label => !label.isEmpty && !label.contains '.'

namespace SubjectMatch

def matchesString : SubjectMatch → String → Bool
  | .any, _ => true
  | .literal lit, value => lit == value
  | .anyOf values, value => values.any (· == value)
  | .domainSuffix suffix, value => domainSuffixMatch suffix value
  | .cidr _, _ => false
  | .unknown, _ => false

def matchesIp : SubjectMatch → IpAddr → Bool
  | .any, _ => true
  | .cidr net, addr => net.contains addr
  | .literal _, _ => false
  | .anyOf _, _ => false
  | .domainSuffix _, _ => false
  | .unknown, _ => false

end SubjectMatch

def PredicateMatch.matchesContext (text : RustText) : PredicateMatch → List (String × String) → Bool
  | .always, _ => true
  | .contextEquals key value, ctx => ctx.any fun entry => entry.1 == key && entry.2 == value
  | .contextIn key values, ctx => ctx.any fun entry => entry.1 == key && values.contains entry.2
  | .dstCidr net, ctx => ctx.any fun entry =>
    entry.1 == "dst_ip" && (text.parseAddr entry.2).any net.contains
  | .unknown, _ => false

/-! ## Reading a `match` document -/

section Reading

variable (text : RustText)

def readNet : Json → Option IpNet
  | .str net => text.parseNet net
  | _ => none

variable (name : String) (members : List (String × Json))

/-- The variant `name` of `SubjectMatch` from the other members of its object. -/
def SubjectMatch.ofMembers : Option SubjectMatch :=
  match name with
  | "any" => some .any
  | "literal" => (required string "value" members).map .literal
  | "any_of" => (required (vec string) "values" members).map .anyOf
  | "domain_suffix" => (required string "suffix" members).map .domainSuffix
  | "cidr" => (required (readNet text) "cidr" members).map .cidr
  | _ => some .unknown

/-- The variant `name` of `SubjectMatch` from the other elements of its array. -/
def SubjectMatch.ofElems (elems : List Json) : Option SubjectMatch :=
  match name, elems with
  | "literal", [value] => (string value).map .literal
  | "literal", _ => none
  | "any_of", [values] => (vec string values).map .anyOf
  | "any_of", _ => none
  | "domain_suffix", [suffix] => (string suffix).map .domainSuffix
  | "domain_suffix", _ => none
  | "cidr", [net] => (readNet text net).map .cidr
  | "cidr", _ => none
  | "any", [] => some .any
  | _, [] => some .unknown
  | _, _ => none

/-- The variant `name` of `PredicateMatch` from the other members of its
object. -/
def PredicateMatch.ofMembers : Option PredicateMatch :=
  match name with
  | "always" => some .always
  | "context_equals" => do
      let key ← required string "key" members
      let value ← required string "value" members
      some (.contextEquals key value)
  | "context_in" => do
      let key ← required string "key" members
      let values ← required (vec string) "values" members
      some (.contextIn key values)
  | "dst_cidr" => (required (readNet text) "cidr" members).map .dstCidr
  | _ => some .unknown

/-- The variant `name` of `PredicateMatch` from the other elements of its
array. -/
def PredicateMatch.ofElems (elems : List Json) : Option PredicateMatch :=
  match name, elems with
  | "context_equals", [key, value] => do
      some (.contextEquals (← string key) (← string value))
  | "context_equals", _ => none
  | "context_in", [key, values] => do
      some (.contextIn (← string key) (← vec string values))
  | "context_in", _ => none
  | "dst_cidr", [net] => (readNet text net).map .dstCidr
  | "dst_cidr", _ => none
  | "always", [] => some .always
  | _, [] => some .unknown
  | _, _ => none

def SubjectMatch.read : Json → Option SubjectMatch :=
  tagged "kind" (SubjectMatch.ofMembers text) (SubjectMatch.ofElems text)

def PredicateMatch.read : Json → Option PredicateMatch :=
  tagged "kind" (PredicateMatch.ofMembers text) (PredicateMatch.ofElems text)

end Reading

end ShieldNet.Policy
