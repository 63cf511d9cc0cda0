import EdgeHealthd.HealthFeedCore

/-!
Executable `lib/verdict.ts` and `orderByAttention` of `lib/domains.ts`, with the tests of
`lib/severity.ts` they use: the headline of the page and the order of its rows. The record
of severities is a function of the domain.
-/

namespace EdgeHealthd.WebUi

def isVisibilityLoss : Severity → Bool
  | .stale | .unavailable => true
  | .ok | .warn | .crit | .unknown => false

def Severity.needsAttention (severity : Severity) : Bool := rank severity > rank .ok

def domainLabel : Domain → String
  | .boot => "Boot"
  | .services => "Services"
  | .resources => "Resources"
  | .timeSync => "Time sync"
  | .update => "Update"
  | .journal => "Journal"
  | .crash => "Crash"

structure Verdict where
  headline : String
  detail : Option String
  deriving DecidableEq

def listDomains (listed : List Domain) : String :=
  let names := listed.map fun domain => (domainLabel domain).toLower
  if names.length ≤ 2 then " and ".intercalate names
  else ", ".intercalate names.dropLast ++ ", and " ++ names.getLastD ""

def verdictFor (severities : Domain → Severity) : Verdict :=
  let faults := domains.filter fun domain => isFault (severities domain)
  let blind := domains.filter fun domain => isVisibilityLoss (severities domain)
  let unobserved := domains.filter fun domain => severities domain = .unknown
  if unobserved.length = domains.length then
    ⟨"Waiting for the first collection", some "No domain has been observed yet."⟩
  else
    match faults with
    | first :: others =>
        let headline := if others.isEmpty then domainLabel first ++ " needs attention"
          else toString faults.length ++ " domains need attention"
        ⟨headline, if blind.length > 0 then some ("Can't currently see " ++ listDomains blind ++ ".")
          else none⟩
    | [] =>
        match blind with
        | first :: others =>
            ⟨if others.isEmpty then "Can't see " ++ (domainLabel first).toLower
              else "Can't see " ++ toString blind.length ++ " domains",
              some "Everything that could be read is healthy."⟩
        | [] =>
            if unobserved.length > 0 then
              ⟨"Everything observed is healthy", some (listDomains unobserved ++ " not observed yet.")⟩
            else ⟨"All domains healthy", none⟩

/-- The comparison function: the worse severity first, the canonical order among equals. -/
def attentionOrder (severities : Domain → Severity) (left right : Domain) : Int :=
  let worse : Int := rank (severities right) - rank (severities left)
  if worse ≠ 0 then worse else (domains.idxOf left : Int) - domains.idxOf right

def orderByAttention (severities : Domain → Severity) : List Domain :=
  domains.mergeSort fun left right => attentionOrder severities left right ≤ 0

end EdgeHealthd.WebUi
