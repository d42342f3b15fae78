import ShieldNet.Swg.Verdict

/-!
# Lists of host patterns

The gateway looks names up in lists of patterns: the names whose TLS is not
intercepted (`crates/sng-swg/src/bypass.rs`) and the categories of hosts
(`categorizer.rs`). Both are put in order when they are installed, so that the
first pattern that matches is the most specific one.

The patterns are compared by `sni_suffix_match` of the firewall crate, which
lowers both sides but keeps a dot at the end of a name.
-/

namespace ShieldNet.Swg

open Text (asciiLower byteLength)

/-! ## Suffixes -/

/-- The pattern behind a leading `*.`, which stands for the same names. -/
def stripWildcard (pattern : Text) : Text := (Text.stripPrefix "*.".toList pattern).getD pattern

/-- The name itself, or one below it. -/
def sniSuffixMatch (suffix value : Text) : Bool :=
  let suffix := stripWildcard suffix
  if suffix = [] ∨ value = [] then false
  else
    let v := asciiLower value
    let s := asciiLower suffix
    if v = s then true
    else match Text.stripSuffix s v with
      | some front => ['.'].isSuffixOf front
      | none => false

/-- Of entries that come one after another under one key, the last is kept. -/
def keepLast {α : Type} (sameKey : α → α → Bool) : List α → List α
  | [] => []
  | [entry] => [entry]
  | entry :: next :: rest =>
    if sameKey entry next then keepLast sameKey (next :: rest)
    else entry :: keepLast sameKey (next :: rest)

/-! ## Names that are passed by -/

structure BypassEntry where
  suffix : Text
  category : Text

structure BypassList where
  entries : List BypassEntry

inductive BypassReason where
  | matched (entry : BypassEntry)
  | noSni
  | noMatch

def BypassReason.toTelemetryString : BypassReason → Text
  | .matched entry => "bypass.".toList ++ entry.category
  | .noSni => "bypass.no_sni".toList
  | .noMatch => "bypass.no_match".toList

structure BypassDecision where
  bypass : Bool
  reason : BypassReason

namespace BypassList

def canonicalizeSuffix (raw : Text) : Text := asciiLower (stripWildcard raw)

/-- Longer suffixes first, and then by name. -/
def walksBefore (one two : BypassEntry) : Bool :=
  byteLength two.suffix < byteLength one.suffix ||
    byteLength two.suffix = byteLength one.suffix && one.suffix ≤ two.suffix

def new (entries : List BypassEntry) : BypassList :=
  let canonical := entries.map fun entry => { entry with suffix := canonicalizeSuffix entry.suffix }
  let sorted := canonical.insertionSort fun one two => one.suffix ≤ two.suffix
  let merged := keepLast (fun one two => one.suffix = two.suffix) sorted
  ⟨merged.insertionSort fun one two => walksBefore one two⟩

def withExtensions (list : BypassList) (extra : List BypassEntry) : BypassList :=
  new (list.entries ++ extra)

def evaluate (list : BypassList) : Option Text → BypassDecision
  | none => ⟨false, .noSni⟩
  | some sni =>
    match list.entries.find? fun entry => sniSuffixMatch entry.suffix sni with
    | some entry => ⟨true, .matched entry⟩
    | none => ⟨false, .noMatch⟩

end BypassList

/-! ## Categories of hosts -/

structure CategoryEntry where
  host : Text
  pathPrefix : Option Text
  category : Text

structure CategoryIndex where
  entries : List CategoryEntry

namespace CategoryIndex

/-- Without a path comes first. -/
def pathLe : Option Text → Option Text → Bool
  | none, _ => true
  | some _, none => false
  | some one, some two => one ≤ two

/-- By host, then by path. -/
def keyLe (one two : CategoryEntry) : Bool :=
  one.host < two.host || one.host = two.host && pathLe one.pathPrefix two.pathPrefix

def sortKey (host : Text) : Nat := byteLength (stripWildcard host)

def isWildcard (host : Text) : Bool := "*.".toList.isPrefixOf host

/-- Longer hosts first, exact ones before wildcards, then longer paths first. -/
def walksBefore (one two : CategoryEntry) : Bool :=
  let onePath := one.pathPrefix.getD []
  let twoPath := two.pathPrefix.getD []
  if sortKey one.host ≠ sortKey two.host then sortKey two.host < sortKey one.host
  else if isWildcard one.host ≠ isWildcard two.host then isWildcard two.host
  else if byteLength onePath ≠ byteLength twoPath then byteLength twoPath < byteLength onePath
  else onePath ≤ twoPath

def install (entries : List CategoryEntry) : CategoryIndex :=
  let canonical := entries.map fun entry =>
    { entry with host := asciiLower entry.host, category := asciiLower entry.category }
  let sorted := canonical.insertionSort fun one two => keyLe one two
  let merged :=
    keepLast (fun one two => one.host = two.host && one.pathPrefix = two.pathPrefix) sorted
  ⟨merged.insertionSort fun one two => walksBefore one two⟩

def hostMatches (pattern host : Text) : Bool :=
  match Text.stripPrefix "*.".toList pattern with
  | some suffix => sniSuffixMatch suffix host
  | none => eqIgnoreCase pattern host

def categorizeSync (index : CategoryIndex) (host path : Text) : Option Text :=
  (index.entries.find? fun entry =>
    hostMatches entry.host host && entry.pathPrefix.all fun start => start.isPrefixOf path).map
    CategoryEntry.category

end CategoryIndex

/-! ## A dot at the end -/

def EndsInDot (text : Text) : Prop := text.getLast? = some '.'

instance (text : Text) : Decidable (EndsInDot text) := inferInstanceAs (Decidable (_ = _))

theorem toLower_eq_dot {c : Char} : c.toLower = '.' ↔ c = '.' := by
  have lowered := Text.toNat_toLower c
  have dot : Char.toNat '.' = 46 := rfl
  rw [← Char.toNat_inj, ← Char.toNat_inj, dot]
  split at lowered <;> omega

theorem endsInDot_asciiLower {text : Text} : EndsInDot (asciiLower text) ↔ EndsInDot text := by
  rw [EndsInDot, EndsInDot, asciiLower, List.getLast?_map, Option.map_eq_some_iff]
  constructor
  · rintro ⟨c, last, lowered⟩
    rw [last, toLower_eq_dot.mp lowered]
  · intro last
    exact ⟨'.', last, rfl⟩

theorem endsInDot_of_suffix {part text : Text} (ends : part <:+ text) (nonempty : part ≠ []) :
    EndsInDot part ↔ EndsInDot text := by
  obtain ⟨front, rfl⟩ := ends
  rw [EndsInDot, EndsInDot, List.getLast?_append_of_ne_nil _ nonempty]

theorem asciiLower_append_dot (text : Text) :
    asciiLower (text ++ ['.']) = asciiLower text ++ ['.'] :=
  List.map_append

theorem endsInDot_append_dot (text : Text) : EndsInDot (text ++ ['.']) := List.getLast?_concat

end ShieldNet.Swg
