import AeroXProtect.External.Deliver

/-!
# Webhook delivery

A delivery checks the address of its target before it connects (`ssrfCheck?`), posts the event and
records the result at the endpoint. What goes wrong with the target is an answer, except where an
exception is left over: the check raises on a URL that cannot be taken apart
(`targetRaises_of_malformed`), and recording the result is a commit. The texts of an answer, the
signature and the headers are left out; what the code takes from the network and the database is
given for each endpoint (`HookEnv`).
-/

open Lib

namespace AeroXProtect

/-! ## URLs -/

/-- A URL taken apart as far as the check reads it. -/
structure Url where
  scheme : String
  netloc : List Char
  deriving DecidableEq, Repr

namespace Url

/-- A scheme starts with a letter and ends at the first colon. -/
def splitScheme (cs : List Char) : String × List Char :=
  let name := cs.takeWhile (· != ':')
  match name, cs.drop name.length with
  | c :: rest, ':' :: after =>
    if c.isAlpha && rest.all fun c => c.isAlphanum || c == '+' || c == '-' || c == '.' then
      (String.ofList (name.map Char.toLower), after)
    else ("", cs)
  | _, _ => ("", cs)

/-- `urlparse(url)`, `none` for a `ValueError`: brackets that do not match, or a network location
that the library refuses (`netlocOk`: an address in brackets that is none, a character that turns
into a delimiter under normalization). -/
def parse? (netlocOk : List Char → Bool) (url : String) : Option Url :=
  let cs := (url.toList.dropWhile fun c => c ≤ ' ').filter fun c =>
    c != '\t' && c != '\r' && c != '\n'
  let (scheme, rest) := splitScheme cs
  match rest with
  | '/' :: '/' :: rest =>
    let netloc := rest.takeWhile fun c => c != '/' && c != '?' && c != '#'
    if netloc.contains '[' != netloc.contains ']' then none
    else if netlocOk netloc then some ⟨scheme, netloc⟩
    else none
  | _ => some ⟨scheme, []⟩

/-- The host and the text of the port. -/
def hostinfo (u : Url) : List Char × List Char :=
  let info := (u.netloc.reverse.takeWhile (· != '@')).reverse
  match info.dropWhile (· != '[') with
  | _ :: bracketed =>
    (bracketed.takeWhile (· != ']'),
      ((bracketed.dropWhile (· != ']')).dropWhile (· != ':')).drop 1)
  | [] => (info.takeWhile (· != ':'), (info.dropWhile (· != ':')).drop 1)

/-- `u.hostname`. -/
def hostname (u : Url) : Option String :=
  if u.hostinfo.1.isEmpty then none
  else some (String.ofList (u.hostinfo.1.map Char.toLower))

/-- `u.port`, `none` for a `ValueError`: a port that is not a number, or too large. -/
def port? (u : Url) : Option (Option Nat) :=
  let text := u.hostinfo.2
  if text.isEmpty then some none
  else if text.all Char.isDigit && Nat.ofDigitChars 10 text 0 ≤ 65535 then
    some (some (Nat.ofDigitChars 10 text 0))
  else none

end Url

/-! ## The check -/

/-- What `ipaddress` says of an address. -/
structure IpAddress where
  isLoopback : Bool
  isLinkLocal : Bool
  isReserved : Bool
  isMulticast : Bool
  isUnspecified : Bool
  isPrivate : Bool
  deriving DecidableEq, Repr

/-- `socket.getaddrinfo`: addresses, an `OSError`, or another exception (a host name that cannot be
encoded). -/
inductive Resolved
  | addresses (l : List IpAddress)
  | osError
  | raises
  deriving DecidableEq, Repr

/-- Why a target is refused. -/
inductive SsrfBlock
  | badScheme | noHost | dnsFail | blockedIp | privateIp
  deriving DecidableEq, Repr

/-- The setting, and what the library says of a network location. -/
structure WebhookConfig where
  allowPrivate : Bool
  netlocOk : List Char → Bool

/-- One address of the target. -/
def WebhookConfig.checkIp (cfg : WebhookConfig) (ip : IpAddress) : Option SsrfBlock :=
  if ip.isLoopback || ip.isLinkLocal || ip.isReserved || ip.isMulticast || ip.isUnspecified then
    some .blockedIp
  else if ip.isPrivate && !cfg.allowPrivate then some .privateIp
  else none

/-- The outer `none` is an exception, the inner one lets the target through. Source: `ssrf_check`
(`server/driver/webhook.py:20`). -/
def WebhookConfig.ssrfCheck? (cfg : WebhookConfig) (resolve : String → Nat → Resolved)
    (url : String) : Option (Option SsrfBlock) :=
  match Url.parse? cfg.netlocOk url with
  | none => none
  | some u =>
    if u.scheme ≠ "http" ∧ u.scheme ≠ "https" then some (some .badScheme)
    else
      match u.hostname with
      | none => some (some .noHost)
      | some host =>
        match u.port? with
        | none => none
        | some port =>
          let dflt := if u.scheme = "https" then 443 else 80
          match resolve host (if port.getD 0 = 0 then dflt else port.getD 0) with
          | .raises => none
          | .osError => some (some .dnsFail)
          | .addresses l => some (l.findSome? cfg.checkIp)

/-! ## Delivery -/

/-- How a step ends: it returns, or it raises. With an exception goes whether the row that is being
consumed can still be read before the session is rolled back: after a flush that failed it cannot,
its attributes are expired and are not loaded again. -/
inductive Ended
  | ok
  | raises (readable : Bool)
  deriving DecidableEq, Repr

/-- The exception that a step ended with. -/
def Ended.raise? : Ended → Option Bool
  | .ok => none
  | .raises readable => some readable

/-- `requests.post`: a status, one of its own exceptions, or another one (from here to the request:
the body, the secret, the headers). -/
inductive Posted
  | status (code : Int)
  | requestException
  | raises
  deriving DecidableEq, Repr

/-- What happens at an endpoint: the queries for its token, the resolution of its host, the request
and the commit of the result. -/
structure HookEnv where
  lookup : Ended
  resolve : String → Nat → Resolved
  post : Posted
  record : Ended

/-- What is recorded: the status and whether it is a success. -/
abbrev HookResult := Option Int × Bool

/-- The result that a delivery records; `none` is an exception. Source: `deliver`
(`server/driver/webhook.py:49`). -/
def WebhookConfig.deliver? (cfg : WebhookConfig) (e : HookEnv) (hook : WebhookEndpoint) :
    Option HookResult :=
  match hook.url with
  | .str url =>
    match cfg.ssrfCheck? e.resolve url with
    | none => none
    | some (some _) => some (none, false)
    | some none =>
      match e.post with
      | .raises => none
      | .requestException => some (none, false)
      | .status code => some (some code, decide (code < 300))
  | _ => none

/-- The check or the request raises. -/
def WebhookConfig.targetRaises (cfg : WebhookConfig) (e : HookEnv) (hook : WebhookEndpoint) :
    Bool :=
  match hook.url with
  | .str url =>
    match cfg.ssrfCheck? e.resolve url with
    | none => true
    | some (some _) => false
    | some none => decide (e.post = .raises)
  | _ => true

/-- A delivery has no result when its check or its request raises. -/
theorem deliver?_eq_none_iff {cfg : WebhookConfig} {e : HookEnv} {hook : WebhookEndpoint} :
    cfg.deliver? e hook = none ↔ cfg.targetRaises e hook = true := by
  unfold WebhookConfig.deliver? WebhookConfig.targetRaises
  split
  · split
    · simp
    · simp
    · cases e.post <;> simp
  · simp

/-- A URL that cannot be taken apart makes the check raise, and so does a bad port. -/
theorem targetRaises_of_malformed {cfg : WebhookConfig} {e : HookEnv} {hook : WebhookEndpoint}
    {url : String} (hurl : hook.url = .str url)
    (h : Url.parse? cfg.netlocOk url = none ∨ ∃ u host, Url.parse? cfg.netlocOk url = some u ∧
      (u.scheme = "http" ∨ u.scheme = "https") ∧ u.hostname = some host ∧ u.port? = none) :
    cfg.targetRaises e hook = true := by
  have hnone : cfg.ssrfCheck? e.resolve url = none := by
    unfold WebhookConfig.ssrfCheck?
    rcases h with hparse | ⟨u, host, hparse, hscheme, hhost, hport⟩
    · rw [hparse]
    · rw [hparse]
      dsimp only
      rw [if_neg (by rcases hscheme with h | h <;> simp [h]), hhost, hport]
  unfold WebhookConfig.targetRaises
  rw [hurl]
  dsimp only
  rw [hnone]

end AeroXProtect
