import Lantunnel.Client.AccessPolicy

/-!
# Host patterns (tp-host-filter/src/lib.rs, tp-gateway/src/host_filter.rs)

Compilation of host patterns (`tp-host-filter/src/lib.rs:215-318`), the target
they are matched against (`:147-190`), the matching (`:192-213`) and the filter
(`:89-137`), with the Gateway's own list of forbidden hosts
(`host_filter.rs:20-47`).
-/

namespace Lantunnel.Gateway
open Lib.RustStd Lib.RustNet

/-- The `regex` crate, and the text of the error that a number which does not
parse gives. -/
structure Foreign (R : Type) where
  regexNew : String → Except String R
  isMatch : R → String → Bool
  escape : String → String
  parseIntError : String → String

/-! ### Patterns (tp-host-filter/src/lib.rs:25-87) -/

/-- The same blocks as in the target-side access policy. -/
abbrev IpNet := Client.IpCidrV2

def IpNet.parse : String → Option IpNet := Client.IpCidrV2.parse

/-- A port is below 65536. -/
inductive Pattern (R : Type)
  | all
  | regex (re : R)
  | cidr (network : IpNet) (port : Option ℕ)
  | host (host : String) (port : Option ℕ)
  | suffix (suffix : String) (port : Option ℕ)
  | port (port : ℕ)

def parsePort : String → Option ℕ := parseUnsigned 65536

/-! ### Compilation (tp-host-filter/src/lib.rs:215-318) -/

def isRegexPattern (s : String) : Bool :=
  containsAny ['^','$','[',']','(',')','\x7b','\x7d','+','?','|','\\'] s ||
    s.toList.tails.any fun rest => ".*".toList.isPrefixOf rest

def splitCidrPort (pattern : String) : Option (String × Option ℕ) := do
  let (net,port) ← rsplitOnce ':' pattern
  if !net.toList.contains '/' then none
  else if port = "*" then some (net,none)
  else (parsePort port).map fun port => (net,some port)

def splitPatternHostPort (pattern : String) : Option (String × Option ℕ) := do
  let (host,port) ← rsplitOnce ':' pattern
  if host = "" then none
  else if port = "*" then some (host,none)
  else (parsePort port).map fun port => (host,some port)

variable {R : Type}

def compileCidr (pattern : String) : Except String (Pattern R) :=
  match splitCidrPort pattern with
  | some (net,port) => do
    let network ← okOr ("invalid CIDR: " ++ pattern) (IpNet.parse net)
    .ok (.cidr network port)
  | none => do
    let network ← okOr ("invalid CIDR: " ++ pattern) (IpNet.parse pattern)
    .ok (.cidr network none)

/-- A pattern with a `*` that is neither a port nor a suffix becomes a regex. -/
def compileStars (f : Foreign R) (pattern : String) : Except String (Pattern R) :=
  match stripPrefix "*." pattern with
  | some suffix => .ok (.suffix (toAsciiLowercase suffix) none)
  | none => (f.regexNew ("^" ++ (f.escape pattern).replace "\\*" ".*" ++ "$")).map .regex

def compileWildcard (f : Foreign R) (pattern : String) : Except String (Pattern R) :=
  match stripPrefix "*:" pattern with
  | some port =>
    if port = "*" then .ok .all
    else
      match parsePort port with
      | some port => .ok (.port port)
      | none => .error (f.parseIntError port)
  | none =>
    match splitPatternHostPort pattern with
    | some (host,port) =>
      match stripPrefix "*." host with
      | some suffix => .ok (.suffix (toAsciiLowercase suffix) port)
      | none =>
        if !host.toList.contains '*' && port.isNone then .ok (.host (toAsciiLowercase host) none)
        else compileStars f pattern
    | none => compileStars f pattern

def compile (f : Foreign R) (pattern : String) : Except String (Pattern R) :=
  if pattern = "" || pattern = "*" || pattern = "*:*" then .ok .all
  else if isRegexPattern pattern then (f.regexNew pattern).map .regex
  else if pattern.toList.contains '/' then compileCidr pattern
  else if pattern.toList.contains '*' then compileWildcard f pattern
  else
    match splitPatternHostPort pattern with
    | some (host,port) => .ok (.host (toAsciiLowercase host) port)
    | none => .ok (.host (toAsciiLowercase pattern) none)

structure HostFilterError where
  pattern : String
  reason : String

def compilePattern (f : Foreign R) (pattern : String) : Except HostFilterError (Pattern R) :=
  (compile f (trim pattern)).mapError fun reason => ⟨pattern,reason⟩

/-! ### The target (tp-host-filter/src/lib.rs:140-190) -/

structure Target where
  address : String
  host : String
  port : Option ℕ

/-- Without brackets: the host is what stands before the last colon, if a port
follows it. -/
def Target.parseUnbracketed (address : String) : Target :=
  match rsplitOnce ':' address with
  | some (host,port) =>
    match if host = "" then none else parsePort port with
    | some port => ⟨address,toAsciiLowercase host,some port⟩
    | none => ⟨address,toAsciiLowercase address,none⟩
  | none => ⟨address,toAsciiLowercase address,none⟩

def Target.parse (address : String) : Option Target :=
  let address:=trim address
  if address = "" then none
  else
    match (stripPrefix "[" address).bind (splitOnce ']') with
    | some (host,tail) =>
      some ⟨address,toAsciiLowercase host,(stripPrefix ":" tail).bind parsePort⟩
    | none => some (Target.parseUnbracketed address)

/-! ### Matching (tp-host-filter/src/lib.rs:192-213) -/

def portMatches (want got : Option ℕ) : Bool := want.all fun port => got=some port

def Pattern.matches (f : Foreign R) (pattern : Pattern R) (target : Target) : Bool :=
  match pattern with
  | .all => true
  | .regex re => f.isMatch re target.address
  | .cidr network want =>
    match parseIpAddr target.host with
    | some ip => network.contains ip && portMatches want target.port
    | none => false
  | .host expected want => target.host=expected && portMatches want target.port
  | .suffix expected want =>
    (target.host=expected || endsWith ("." ++ expected) target.host) &&
      portMatches want target.port
  | .port want => target.port=some want

/-! ### The filter (tp-host-filter/src/lib.rs:89-137, host_filter.rs:20-58) -/

structure HostFilter (R : Type) where
  forbidden : List (Pattern R)
  allowed : List (Pattern R)

namespace HostFilter

def newWithDefaults (f : Foreign R) (defaultForbidden forbidden allowed : List String) :
    Except HostFilterError (HostFilter R) := do
  let defaults ← defaultForbidden.mapM (compilePattern f)
  let compiledForbidden ← forbidden.mapM (compilePattern f)
  let compiledAllowed ← allowed.mapM (compilePattern f)
  .ok ⟨defaults++compiledForbidden,compiledAllowed⟩

def isAllowed (f : Foreign R) (filter : HostFilter R) (address : String) : Bool :=
  match Target.parse address with
  | none => false
  | some target =>
    if filter.forbidden.any fun p => p.matches f target then false
    else if filter.allowed.isEmpty then true
    else filter.allowed.any fun p => p.matches f target

def DEFAULT_FORBIDDEN : List String :=
  ["0.0.0.0/8","169.254.169.254","169.254.170.2","100.100.100.200","metadata.google.internal",
    "instance-data.ec2.internal","metadata.azure.com"]

def new (f : Foreign R) (forbidden allowed : List String) :
    Except HostFilterError (HostFilter R) :=
  newWithDefaults f DEFAULT_FORBIDDEN forbidden allowed

def defaults : List (Pattern R) :=
  [.cidr (.v4 0 8) none,.host "169.254.169.254" none,.host "169.254.170.2" none,
    .host "100.100.100.200" none,.host "metadata.google.internal" none,
    .host "instance-data.ec2.internal" none,.host "metadata.azure.com" none]

theorem new_defaults (f : Foreign R) : HostFilter.new f [] [] = .ok ⟨defaults,[]⟩ := rfl

end HostFilter

end Lantunnel.Gateway
